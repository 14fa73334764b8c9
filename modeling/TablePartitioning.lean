import TablePartitioning.Capability.Together
import TablePartitioning.Config.Connection
import TablePartitioning.Main
import TablePartitioning.Server.Prepared
import TablePartitioning.Server.Scripted
import TablePartitioning.Proofs.Sharing.Coherence
import TablePartitioning.Proofs.Sharing.Outcomes
import TablePartitioning.Proofs.Sharing.Renewal
import TablePartitioning.Proofs.Sharing.SharedDetection
import TablePartitioning.Proofs.Dialogue.Transcript
import TablePartitioning.Proofs.Partitioner.Sending
import TablePartitioning.Proofs.Partitioner.Session
import TablePartitioning.Proofs.Ddl.Literal
import TablePartitioning.Proofs.Text.Numeral
import TablePartitioning.Proofs.Calendar.Day
import TablePartitioning.Proofs.Calendar.YearSpan
import TablePartitioning.Proofs.Ddl.CalendarPartitions
import TablePartitioning.Proofs.Ddl.CalendarRouting
import TablePartitioning.Proofs.Ddl.CalendarTiling
import TablePartitioning.Proofs.Ddl.RangeDefinitions
import TablePartitioning.Proofs.Ddl.RangeRouting
import TablePartitioning.Proofs.Text.PlainNames
import TablePartitioning.Proofs.Text.Identifiers
import TablePartitioning.Proofs.Ddl.CalendarNames
import TablePartitioning.Proofs.Dialogue.Statements
import TablePartitioning.Proofs.Partitioner.DryRun
import TablePartitioning.Proofs.Ddl.DefinitionRules
import TablePartitioning.Proofs.Ddl.DefinitionNames
import TablePartitioning.Proofs.Config.Layering
import TablePartitioning.Proofs.Ddl.AcceptedSpans
import TablePartitioning.Proofs.Ddl.CalendarSubpartitions
import TablePartitioning.Proofs.Capability.Detection
import TablePartitioning.Proofs.Partitioner.Precedence
import TablePartitioning.Proofs.Ddl.RangeBounds
import TablePartitioning.Proofs.Ddl.Tokens
import TablePartitioning.Proofs.Ddl.ClauseReading
import TablePartitioning.Proofs.Ddl.StatementPunctuation
import TablePartitioning.Proofs.Ddl.ChildTables
import TablePartitioning.Proofs.Capability.Suitability
import TablePartitioning.Proofs.Partitioner.Numbering
import TablePartitioning.Proofs.Ddl.YearEnds
import TablePartitioning.Proofs.Ddl.EscapedLiterals
import TablePartitioning.Proofs.CommandLine.PartitionArguments
import TablePartitioning.Proofs.Partitioner.WholeAnswers
import TablePartitioning.Proofs.Rows.PrintedRows
import TablePartitioning.Proofs.Config.WrittenSettings
import TablePartitioning.Proofs.Text.TableNames
import TablePartitioning.Proofs.Capability.Versions
import TablePartitioning.Proofs.Ddl.ClauseLists

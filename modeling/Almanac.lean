import Almanac.Calendar.Month
import Almanac.Calendar.Date
import Almanac.Text.CodeRanges
import Almanac.Text.Blank
import Almanac.Text.Letter
import Almanac.Text.DecimalDigit
import Almanac.Text.Printable
import Almanac.Text.Case.Mapping
import Almanac.Text.Case.Fold
import Almanac.Text.Case.Upper
import Almanac.Text.Case.Lower
import Almanac.Text.Decimal
import Almanac.Text.Quoted
import Almanac.Table
import Almanac.Number.Double
import Almanac.Number.Shortest
import Almanac.Number.Numeral
import Almanac.Value
import Almanac.Calendar.Error
import Almanac.Calendar.FirstDay
import Almanac.Calendar.Days
import Almanac.Calendar.Moment
import Almanac.Calendar.Period
import Almanac.Calendar.Notation
import Almanac.Report
import Almanac.Language.Vocabulary
import Almanac.Language.BuiltIn
import Almanac.Language.Lexicon
import Almanac.Specification.Basic
import Almanac.Specification.Form
import Almanac.Resolver
import Almanac.Walk
import Almanac.Validation
import Almanac.Preferences.Environment
import Almanac.Preferences.VariableFile
import Almanac.Preferences.Basic
import Almanac.Preferences.Sources
import Almanac.Setup
import Almanac.Journal
import Almanac.CommandLine.Arguments
import Almanac.CommandLine.Run
import Almanac.Session
import Almanac.Main
import Almanac.Proofs.Dates
import Almanac.Proofs.RunsOfDates
import Almanac.Proofs.Weeks
import Almanac.Proofs.CountedPeriods
import Almanac.Proofs.WeekNumbers
import Almanac.Proofs.Characters
import Almanac.Proofs.Forms
import Almanac.Proofs.ReferenceDate
import Almanac.Proofs.Answerable
import Almanac.Proofs.Answers
import Almanac.Proofs.Failures
import Almanac.Proofs.Shapes
import Almanac.Proofs.FormOrder
import Almanac.Proofs.Folding
import Almanac.Proofs.Respelling
import Almanac.Proofs.WrittenDates
import Almanac.Proofs.Dependence
import Almanac.Proofs.RelativePeriods
import Almanac.Proofs.Outcomes
import Almanac.Proofs.Walks
import Almanac.Proofs.Tables
import Almanac.Proofs.Vocabularies
import Almanac.Proofs.Lexicons
import Almanac.Proofs.MonthNames
import Almanac.Proofs.LowerCase
import Almanac.Proofs.LocaleLists
import Almanac.Proofs.AcceptedPreferences
import Almanac.Proofs.LocaleOrder
import Almanac.Proofs.Configurations
import Almanac.Proofs.CommandRuns
import Almanac.Proofs.ReportedPeriods
import Almanac.Proofs.WeekDefinition
import Almanac.Proofs.WeekPartition
import Almanac.Proofs.LastDays
import Almanac.Proofs.TimeLine
import Almanac.Proofs.DateNotation
import Almanac.Proofs.Drafts
import Almanac.Proofs.NameMatching

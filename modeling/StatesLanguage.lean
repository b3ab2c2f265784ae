import StatesLanguage.Main
import StatesLanguage.Machine.Printer
import StatesLanguage.Text.Invisible
import StatesLanguage.Timestamp
import StatesLanguage.Proofs.DataFailure
import StatesLanguage.Proofs.Step
import StatesLanguage.Proofs.Course
import StatesLanguage.Proofs.Safety
import StatesLanguage.Proofs.History
import StatesLanguage.Proofs.Record
import StatesLanguage.Proofs.Retry
import StatesLanguage.Proofs.RuleNotation
import StatesLanguage.Proofs.MachineNotation
import StatesLanguage.Proofs.RuleCheck
import StatesLanguage.Proofs.RuleWalk
import StatesLanguage.Proofs.Assignment
import StatesLanguage.Proofs.WellFormed
import StatesLanguage.Proofs.Separation
import StatesLanguage.Proofs.Decision
import StatesLanguage.Proofs.Order
import StatesLanguage.Proofs.RuleContents
import StatesLanguage.Proofs.Loading
import StatesLanguage.Proofs.Limit
import StatesLanguage.Proofs.Survival
import StatesLanguage.Proofs.Answers
import StatesLanguage.Proofs.Guards
import StatesLanguage.Proofs.Agreement
import StatesLanguage.Proofs.Alike
import StatesLanguage.Proofs.Budget
import StatesLanguage.Proofs.Backoff
import StatesLanguage.Proofs.Numeral
import StatesLanguage.Proofs.PathNotation
import StatesLanguage.Proofs.PathComposition
import StatesLanguage.Proofs.DocumentText
import StatesLanguage.Proofs.ArgumentText
import StatesLanguage.Proofs.CallNotation
import StatesLanguage.Proofs.Commutation
import StatesLanguage.Proofs.Scaffolding
import StatesLanguage.Proofs.ArgumentSplit
import StatesLanguage.Proofs.Wildcard
import StatesLanguage.Proofs.TimeOrder
import StatesLanguage.Proofs.FieldForms
import StatesLanguage.Proofs.Formatting
import StatesLanguage.Proofs.Slicing
import StatesLanguage.Proofs.TemplateStructure

import WireSchema.Main
import WireSchema.Proofs.Compiler.Arguments
import WireSchema.Proofs.Compiler.Missing
import WireSchema.Proofs.Compiler.Outcome
import WireSchema.Proofs.Config.Mirror
import WireSchema.Proofs.Config.Separation
import WireSchema.Proofs.Config.Settings
import WireSchema.Proofs.Config.Spelling
import WireSchema.Proofs.Document.Reading
import WireSchema.Proofs.Document.Scope
import WireSchema.Proofs.Entry.Chaining
import WireSchema.Proofs.Entry.Endings
import WireSchema.Proofs.Entry.Grammar
import WireSchema.Proofs.FileSystem.Lookup
import WireSchema.Proofs.FileSystem.Rename
import WireSchema.Proofs.FunctionTable.Feeding
import WireSchema.Proofs.FunctionTable.History
import WireSchema.Proofs.FunctionTable.Names
import WireSchema.Proofs.FunctionTable.Offence
import WireSchema.Proofs.FunctionTable.Regrouping
import WireSchema.Proofs.Generation.Agreement
import WireSchema.Proofs.Generation.Completeness
import WireSchema.Proofs.Generation.Dependence
import WireSchema.Proofs.Generation.Effects
import WireSchema.Proofs.Generation.Endings
import WireSchema.Proofs.Process.Ending
import WireSchema.Proofs.Process.Launch
import WireSchema.Proofs.Session.Completion
import WireSchema.Proofs.Text.Basic
import WireSchema.Proofs.Text.Case
import WireSchema.Proofs.Text.Line
import WireSchema.Proofs.Text.Malformed
import WireSchema.Proofs.Text.Utf8

import ComponentCompiler.Main
import ComponentCompiler.Proofs.Component.Outcome
import ComponentCompiler.Proofs.StyleCache.Entries
import ComponentCompiler.Proofs.Stylesheet.RoundTrip
import ComponentCompiler.Proofs.Component.FinishedStyle
import ComponentCompiler.Proofs.Component.CacheTransparency
import ComponentCompiler.Proofs.Component.Lockstep
import ComponentCompiler.Proofs.Component.ModuleText
import ComponentCompiler.Proofs.Text.LiteralStart
import ComponentCompiler.Proofs.Component.StyleHits
import ComponentCompiler.Proofs.Component.StatementEnds
import ComponentCompiler.Proofs.Dependency.Emission
import ComponentCompiler.Proofs.Component.Session
import ComponentCompiler.Proofs.Selector.Insertion
import ComponentCompiler.Proofs.Stylesheet.ScopedRules
import ComponentCompiler.Proofs.Selector.Compound
import ComponentCompiler.Proofs.Stylesheet.PrefixedText
import ComponentCompiler.Proofs.Component.ModuleSources
import ComponentCompiler.Proofs.Component.Accounts
import ComponentCompiler.Proofs.Component.PartAccounts
import ComponentCompiler.Proofs.Component.References
import ComponentCompiler.Proofs.Component.StrictReferences
import ComponentCompiler.Proofs.Component.Dependencies
import ComponentCompiler.Proofs.Text.LineNumbers
import ComponentCompiler.Proofs.Markup.RawText
import ComponentCompiler.Proofs.Component.ScriptLines
import ComponentCompiler.Proofs.Stylesheet.Cascade
import ComponentCompiler.Proofs.Component.StyleRejection
import ComponentCompiler.Proofs.Settings.Entries
import ComponentCompiler.Proofs.Settings.Applied
import ComponentCompiler.Proofs.Settings.KeyOrder
import ComponentCompiler.Proofs.Dependency.Subscription
import ComponentCompiler.Proofs.StyleCache.Recency
import ComponentCompiler.Proofs.Stylesheet.Faults
import ComponentCompiler.Proofs.Selector.Arguments
import ComponentCompiler.Proofs.Component.LooseReferences
import ComponentCompiler.Proofs.Stylesheet.StageOrder
import ComponentCompiler.Proofs.Stylesheet.WellFormed
import ComponentCompiler.Proofs.Stylesheet.Escapes
import ComponentCompiler.Proofs.Stylesheet.ScanModes
import ComponentCompiler.Proofs.Component.ModuleLiterals
import ComponentCompiler.Proofs.Stylesheet.Descent
import ComponentCompiler.Proofs.Settings.Refused
import ComponentCompiler.Proofs.Settings.Soundness
import ComponentCompiler.Proofs.Selector.Layout

import Clausal.Elapsed
import Clausal.Session
import Clausal.Worksheet.Run
import Clausal.Proofs.FreshName
import Clausal.Proofs.Logging
import Clausal.Proofs.Semantics.Polarity
import Clausal.Proofs.Semantics.Nameless
import Clausal.Proofs.Semantics.Clause
import Clausal.Proofs.Semantics.Skolem
import Clausal.Proofs.Semantics.Substitution
import Clausal.Proofs.Stages
import Clausal.Proofs.Reader.Grammar
import Clausal.Proofs.Reader.Soundness
import Clausal.Proofs.Reader.Completeness
import Clausal.Proofs.Reader.Lookahead
import Clausal.Proofs.Reader.Extension
import Clausal.Proofs.Reader.Correctness
import Clausal.Proofs.Reader.Spellable
import Clausal.Proofs.Reader.Refusal
import Clausal.Proofs.Reader.Places
import Clausal.Proofs.Segmentation
import Clausal.Proofs.RoundTrip
import Clausal.Proofs.Identifiers
import Clausal.Proofs.Run
import Clausal.Proofs.Displays
import Clausal.Proofs.Witnesses
import Clausal.Proofs.Session
import Clausal.Proofs.History
import Clausal.Proofs.Thresholds
import Clausal.Proofs.LineEnds
import Clausal.Proofs.PrenexForms
import Clausal.Proofs.SkolemForms
import Clausal.Proofs.ApartForms
import Clausal.Proofs.DistributedForms
import Clausal.Proofs.NegationForms
import Clausal.Proofs.ComposedPasses
import Clausal.Proofs.ClausalForms
import Clausal.Proofs.ArrowFreeForms
import Clausal.Proofs.DualForms
import Clausal.Proofs.RefusedForms
import Clausal.Proofs.ClauseDisplays
import Clausal.Proofs.Replacement
import Clausal.Proofs.SubstitutedForms
import Clausal.Proofs.Removal
import Clausal.Proofs.WitnessNames
import Clausal.Proofs.WitnessTerms
import Clausal.Proofs.SpacedTexts
import Clausal.Proofs.Invisible
import Clausal.Proofs.Faults
import Clausal.Proofs.ElapsedTexts
import Clausal.Proofs.HornClauses
import Clausal.Proofs.QuantifierPrefixes
import Clausal.Proofs.ApplicativeNotation
import Clausal.Proofs.LineBreaking
import Clausal.Proofs.FormulaLayouts
import Clausal.Proofs.MintedNames
import Clausal.Proofs.BracedGroups

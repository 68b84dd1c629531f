import RecordFilter.CommandLine
import RecordFilter.Main
import RecordFilter.Predicate.Canonical
import RecordFilter.Predicate.Grammar
import RecordFilter.Predicate.Truth
import RecordFilter.Proofs.FlatForms
import RecordFilter.Proofs.FragmentPieces
import RecordFilter.Proofs.OpaqueText
import RecordFilter.Proofs.Trimming
import RecordFilter.Workbench
import RecordFilter.Proofs.PlaceholderLinearity
import RecordFilter.Proofs.GrammarAgreement
import RecordFilter.Proofs.PrintedText
import RecordFilter.Proofs.FilterRoundTrip
import RecordFilter.Proofs.LiteralVariation
import RecordFilter.Proofs.LiteralOpacity
import RecordFilter.Proofs.Chains
import RecordFilter.Proofs.TableContents
import RecordFilter.Proofs.Regrouping
import RecordFilter.Proofs.CanonicalText
import RecordFilter.Proofs.GroupRoundTrip
import RecordFilter.Proofs.GroupSurroundings
import RecordFilter.Proofs.PolicyExtension
import RecordFilter.Proofs.OrderedMerge
import RecordFilter.Proofs.TableRebuild
import RecordFilter.Proofs.JsonTokens
import RecordFilter.Proofs.JsonText
import RecordFilter.Proofs.JsonGroups
import RecordFilter.Proofs.ExchangeRoundTrip
import RecordFilter.Proofs.RightLeaning
import RecordFilter.Proofs.CollectionInvariance
import RecordFilter.Proofs.JsonOrder
import RecordFilter.Proofs.QuotedFailures
import RecordFilter.Proofs.OpenLiterals
import RecordFilter.Proofs.JsonNumbers
import RecordFilter.Proofs.ShortestLiterals
import RecordFilter.Proofs.IntegerTokens
import RecordFilter.Predicate.Recursion
import RecordFilter.Proofs.FragmentRecursion
import RecordFilter.Proofs.UnmatchedParentheses
import RecordFilter.Proofs.TextCuts

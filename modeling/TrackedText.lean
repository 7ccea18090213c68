import TrackedText.Files.Tree
import TrackedText.Main
import TrackedText.Registry.Session
import TrackedText.Script.Writer
import TrackedText.Wire
import TrackedText.World.Call
import TrackedText.Proofs.SpanBounds
import TrackedText.Proofs.RegistryBounds
import TrackedText.Proofs.SessionRuns
import TrackedText.Proofs.StagedReports
import TrackedText.Proofs.RangeHistory
import TrackedText.Proofs.WordArithmetic
import TrackedText.Proofs.CoveredText
import TrackedText.Proofs.DocumentEdits
import TrackedText.Proofs.DocumentCalls
import TrackedText.Proofs.WorldRuns
import TrackedText.Proofs.TrackingHistory
import TrackedText.Proofs.SpanOrder
import TrackedText.Proofs.DocumentChanges
import TrackedText.Proofs.WorldEffects
import TrackedText.Proofs.RelativePlaces
import TrackedText.Proofs.Tilings
import TrackedText.Proofs.ReportedEdits
import TrackedText.Proofs.UndoneInsertion
import TrackedText.Proofs.PatchAccount
import TrackedText.Proofs.CommandRuns
import TrackedText.Proofs.SeparateEdits
import TrackedText.Proofs.SplitEdits
import TrackedText.Proofs.StagedCalls
import TrackedText.Proofs.RefusedCalls
import TrackedText.Proofs.WrittenScripts
import TrackedText.Proofs.ScriptRuns
import TrackedText.Proofs.ScriptMentions
import TrackedText.Proofs.ScriptNames
import TrackedText.Proofs.AssertedEdits
import TrackedText.Proofs.ConfinedCalls
import TrackedText.Proofs.UntouchedDocuments
import TrackedText.Proofs.RenumberedRanges
import TrackedText.Proofs.RenumberedWorlds
import TrackedText.Proofs.SharedRanges
import TrackedText.Proofs.IsolatedDocuments
import TrackedText.Proofs.ScriptLines
import TrackedText.Proofs.CountedEdits
import TrackedText.Proofs.CoveredEnd
import TrackedText.Proofs.EncodedTexts
import TrackedText.Proofs.WrittenStrings
import TrackedText.Proofs.SavedConfigs
import TrackedText.Proofs.EditsThroughRanges
import TrackedText.Proofs.ReloadedConfigs
import TrackedText.Proofs.ProgramOutcomes
import TrackedText.Proofs.EditedTexts
import TrackedText.Proofs.CaretAndAnchor
import TrackedText.Proofs.ReadingCalls
import TrackedText.Proofs.UntrackedRanges
import TrackedText.Proofs.StoredOffsets
import TrackedText.Proofs.TrackingCalls
import TrackedText.Proofs.AdjustedSpans
import TrackedText.Proofs.CheckedReports
import TrackedText.Proofs.StoryRuns
import TrackedText.Proofs.CarriageReturns
import TrackedText.Proofs.MovedSpans
import TrackedText.Proofs.CharacterBoundaries

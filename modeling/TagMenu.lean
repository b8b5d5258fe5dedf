import TagMenu.Cache.Shared
import TagMenu.Machine
import TagMenu.Main
import TagMenu.Source.Shown
import TagMenu.Proofs.Cache.Look
import TagMenu.Proofs.Cache.History
import TagMenu.Proofs.Cache.Sound
import TagMenu.Proofs.Cache.Idle
import TagMenu.Proofs.Cache.Ledger
import TagMenu.Proofs.Cache.Still
import TagMenu.Proofs.Cache.Failure
import TagMenu.Proofs.Cache.Scratch
import TagMenu.Proofs.Cache.SameFiles
import TagMenu.Proofs.Cache.Retry
import TagMenu.Proofs.Cache.Callers
import TagMenu.Proofs.Cache.Moments
import TagMenu.Proofs.Cache.Success
import TagMenu.Proofs.Command.Agreement
import TagMenu.Proofs.Command.Init
import TagMenu.Proofs.Command.Objects
import TagMenu.Proofs.Escape.Seam
import TagMenu.Proofs.Escape.Spelling
import TagMenu.Proofs.Escape.Faults
import TagMenu.Proofs.Escape.Widths
import TagMenu.Proofs.File.Written
import TagMenu.Proofs.File.Lines
import TagMenu.Proofs.File.Endings
import TagMenu.Proofs.Line.Grammar
import TagMenu.Proofs.Pattern.WellFormed
import TagMenu.Proofs.Settings.Located
import TagMenu.Proofs.Source.Told
import TagMenu.Proofs.Text.Split

import OffloadBench.Main
import OffloadBench.Config.Value
import OffloadBench.Wire.Dump
import OffloadBench.Device.Script
import OffloadBench.Device.Transcript
import OffloadBench.Proofs.Run.Verdict
import OffloadBench.Proofs.Run.Repetition
import OffloadBench.Proofs.Run.Detection
import OffloadBench.Proofs.Run.Repeated
import OffloadBench.Proofs.Round.Reachable
import OffloadBench.Proofs.Stimulus.Distinct
import OffloadBench.Proofs.Run.Account
import OffloadBench.Proofs.CommandLine.StatusFile
import OffloadBench.Proofs.Wire.Codec
import OffloadBench.Proofs.Run.LevelOffset
import OffloadBench.Proofs.Run.Orders
import OffloadBench.Proofs.Engine.Conservation
import OffloadBench.Proofs.Engine.SendOrder
import OffloadBench.Proofs.Engine.FaultyRound
import OffloadBench.Proofs.Engine.Counters
import OffloadBench.Proofs.Config.Layering
import OffloadBench.Proofs.Status.Location
import OffloadBench.Proofs.Round.Outcome
import OffloadBench.Proofs.Round.WrongSums
import OffloadBench.Proofs.Round.Leftover
import OffloadBench.Proofs.Stimulus.SetDistance
import OffloadBench.Proofs.Wire.Difference
import OffloadBench.Proofs.Draw.Fairness
import OffloadBench.Proofs.Draw.Rejection
import OffloadBench.Proofs.Round.Construction
import OffloadBench.Proofs.Status.Codes
import OffloadBench.Proofs.CommandLine.Numbers
import OffloadBench.Proofs.Device.Spelling
import OffloadBench.Proofs.Round.Levels
import OffloadBench.Proofs.Draw.Cycle
import OffloadBench.Proofs.Draw.Seeds

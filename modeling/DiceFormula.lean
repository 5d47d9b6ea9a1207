import DiceFormula.Atom
import DiceFormula.Decimal.Binary64
import DiceFormula.Decimal.Writing
import DiceFormula.Expr.Basic
import DiceFormula.Expr.Bounds
import DiceFormula.Expr.OfText
import DiceFormula.Fault
import DiceFormula.Log
import DiceFormula.Lru
import DiceFormula.Operator
import DiceFormula.Proofs.Decimal.Nearest
import DiceFormula.Proofs.Expr.Canonical
import DiceFormula.Proofs.Expr.Extremes
import DiceFormula.Proofs.Expr.Interval
import DiceFormula.Proofs.Expr.Nesting
import DiceFormula.Proofs.Expr.Parsing
import DiceFormula.Proofs.Expr.Parts
import DiceFormula.Proofs.Expr.Pointing
import DiceFormula.Proofs.Expr.Reading
import DiceFormula.Proofs.Expr.Recursion
import DiceFormula.Proofs.Expr.RoundTrip
import DiceFormula.Proofs.Expr.Spine
import DiceFormula.Proofs.Expr.Unclosed
import DiceFormula.Proofs.Expr.Widening
import DiceFormula.Proofs.Lockstep
import DiceFormula.Proofs.Lru.Inclusion
import DiceFormula.Proofs.Lru.Recency
import DiceFormula.Proofs.Random.EveryFace
import DiceFormula.Proofs.Random.Face
import DiceFormula.Proofs.Roll.Account
import DiceFormula.Proofs.Roll.Allowance
import DiceFormula.Proofs.Roll.Attaining
import DiceFormula.Proofs.Roll.Containment
import DiceFormula.Proofs.Roll.Dealing
import DiceFormula.Proofs.Roll.Effect
import DiceFormula.Proofs.Roll.Fair
import DiceFormula.Proofs.Roll.Falling
import DiceFormula.Proofs.Roll.Faults
import DiceFormula.Proofs.Roll.Metering
import DiceFormula.Proofs.Roll.Observation
import DiceFormula.Proofs.Roll.Overshoot
import DiceFormula.Proofs.Roll.Plain
import DiceFormula.Proofs.Roll.Reckoning
import DiceFormula.Proofs.Roll.Recursion
import DiceFormula.Proofs.Roll.Reroll
import DiceFormula.Proofs.Roll.Retelling
import DiceFormula.Proofs.Roll.Simulation
import DiceFormula.Proofs.Roll.Telling
import DiceFormula.Proofs.Roll.Timing
import DiceFormula.Proofs.Roller.Agreement
import DiceFormula.Proofs.Roller.Caching
import DiceFormula.Proofs.Roller.Faults
import DiceFormula.Proofs.Roller.Normalized
import DiceFormula.Proofs.Roller.Observation
import DiceFormula.Proofs.Roller.Outcome
import DiceFormula.Proofs.Roller.Reachable
import DiceFormula.Proofs.Roller.Record
import DiceFormula.Proofs.Roller.Replay
import DiceFormula.Proofs.Roller.Roomier
import DiceFormula.Proofs.Roller.Steady
import DiceFormula.Proofs.Roller.Trimming
import DiceFormula.Proofs.Roller.Unread
import DiceFormula.Proofs.Run
import DiceFormula.Proofs.Service.Reachable
import DiceFormula.Proofs.Service.Shared
import DiceFormula.Proofs.Service.Validation
import DiceFormula.Proofs.Settings.Draft
import DiceFormula.Proofs.Settings.Environment
import DiceFormula.Proofs.Text.Numeral
import DiceFormula.Proofs.Token.Canonical
import DiceFormula.Proofs.Token.Failure
import DiceFormula.Proofs.Token.Joining
import DiceFormula.Proofs.Token.LongNumeral
import DiceFormula.Proofs.Token.Longest
import DiceFormula.Proofs.Token.Lossless
import DiceFormula.Proofs.Token.Parentheses
import DiceFormula.Proofs.Token.Scan
import DiceFormula.Proofs.Token.Written
import DiceFormula.Proofs.Transcript.Trimming
import DiceFormula.Random.Seed
import DiceFormula.Random.Source
import DiceFormula.Roll.Evaluate
import DiceFormula.Roll.Session
import DiceFormula.Roll.Trace
import DiceFormula.Roller.Basic
import DiceFormula.Roller.Evaluate
import DiceFormula.Service
import DiceFormula.Settings.Basic
import DiceFormula.Settings.Environment
import DiceFormula.Text.LetterCase
import DiceFormula.Text.Numeral
import DiceFormula.Text.Quoted
import DiceFormula.Token.Form
import DiceFormula.Token.Scan
import DiceFormula.Transcript.Basic
import DiceFormula.Transcript.Recorder
import DiceFormula.Transcript.Wording

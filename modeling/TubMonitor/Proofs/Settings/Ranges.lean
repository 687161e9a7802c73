import TubMonitor.Proofs.Settings.Document
import TubMonitor.Settings.Arguments

/-!
# What a command line can say

Whatever holds at the start and is kept by every option that is taken holds once a command line
has been read.  So the numbers that a command line gives fit the fields that they are saved in.
-/

namespace TubMonitor

namespace CommandLine

/-!
## Reading keeps what options keep
-/

section Invariants

variable {κ σ : Type} {g : Grammar κ σ} {Holds : σ -> Prop}

theorem admit_invariant {option : κ} {value : OsText} {s next : σ}
    (hApply : forall s next, Holds s -> g.apply option value s = .ok next -> Holds next)
    (hStart : Holds s) (h : g.admit option value s = .ok next) : Holds next := by
  unfold Grammar.admit at h
  split at h
  · cases h
  · exact hApply s next hStart h

theorem readValue_settled {p next : Progress κ σ} {argument : OsText}
    (h : Grammar.readValue p argument = .ok next) : next.settled = p.settled := by
  unfold Grammar.readValue at h
  split at h
  · cases h
    rfl
  · cases h

variable (hApply : forall option value s next, Holds s -> g.apply option value s = .ok next ->
  Holds next)

include hApply

theorem settle_invariant {p : Progress κ σ} {next : σ} (hStart : Holds p.settled)
    (h : g.settle p = .ok next) : Holds next := by
  unfold Grammar.settle at h
  split at h
  · cases h
    exact hStart
  · cases h
  · next option value _ => exact admit_invariant (hApply option value) hStart h

theorem react_invariant {p next : Progress κ σ} {option : κ} {value : OsText}
    (hStart : Holds p.settled) (h : g.react p option value = .ok next) : Holds next.settled := by
  unfold Grammar.react at h
  cases hSettle : g.settle p with
  | error rejection => simp [hSettle, bind, Except.bind] at h
  | ok before =>
      have hBefore := settle_invariant hApply hStart hSettle
      cases hAdmit : g.admit option value before with
      | error rejection => simp [hSettle, hAdmit, bind, Except.bind] at h
      | ok settled =>
          simp only [hSettle, hAdmit, bind, Except.bind, Except.ok.injEq] at h
          subst h
          exact admit_invariant (hApply option value) hBefore hAdmit

theorem readLong_invariant {p next : Progress κ σ} {row : List UInt8} (hStart : Holds p.settled)
    (h : g.readLong p row = .ok next) : Holds next.settled := by
  simp only [Grammar.readLong] at h
  split at h
  · cases h
  · split at h
    · cases h
    · exact react_invariant hApply hStart h
    · exact react_invariant hApply hStart h
    · split at h
      · next settled hSettle =>
          cases h
          exact settle_invariant hApply hStart hSettle
      · cases h

theorem readLetters_invariant {p next : Progress κ σ} {letters : List (Option Char)}
    (hStart : Holds p.settled) (h : g.readLetters p letters = .ok next) : Holds next.settled := by
  induction letters generalizing p with
  | nil =>
      cases h
      exact hStart
  | cons letter rest ih =>
      cases letter with
      | none => cases h
      | some letter =>
          rw [Grammar.readLetters] at h
          split at h
          · cases h
          · split at h
            · next before hReact => exact ih (react_invariant hApply hStart hReact) h
            · cases h

theorem readArgument_invariant {p next : Progress κ σ} {argument : OsText}
    (hStart : Holds p.settled) (h : g.readArgument p argument = .ok next) :
    Holds next.settled := by
  have hValue (hRead : Grammar.readValue p argument = .ok next) : Holds next.settled := by
    rw [readValue_settled hRead]
    exact hStart
  unfold Grammar.readArgument at h
  split at h
  · exact hValue h
  · split at h
    · split at h
      · exact hValue h
      · split at h
        · exact readLetters_invariant hApply hStart h
        · split at h
          · cases h
            exact hStart
          · exact readLong_invariant hApply hStart h
    · exact hValue h

theorem readAll_invariant {p : Progress κ σ} {arguments : List OsText} {next : σ}
    (hStart : Holds p.settled) (h : g.readAll p arguments = .ok next) : Holds next := by
  induction arguments generalizing p with
  | nil => exact settle_invariant hApply hStart h
  | cons argument rest ih =>
      rw [Grammar.readAll] at h
      split at h
      · next between hRead => exact ih (readArgument_invariant hApply hStart hRead) h
      · cases h

variable (Holds)

theorem read_invariant {start next : σ} {arguments : List OsText} (hStart : Holds start)
    (h : g.read start arguments = .ok next) : Holds next :=
  readAll_invariant hApply (p := ⟨start, none, false⟩) hStart h

end Invariants

end CommandLine

namespace Settings

/-!
## Numbers on the command line
-/

/-- What a command line says of the settings that are kept. -/
def Given.kept (g : Given) : Saved where
  sensors := g.sensors
  store := g.store
  databasePath := g.databasePath
  temperatureInterval := g.temperatureInterval
  leakInterval := g.leakInterval
  notifier := g.notifier
  roomSensor := g.roomSensor
  waterSensor := g.waterSensor
  leakPin := g.leakPin
  pumpPin := g.pumpPin
  ozonePin := g.ozonePin

namespace Argument

theorem bind_ok {α β : Type} {x : Except CommandLine.Rejection α}
    {f : α -> Except CommandLine.Rejection β} {b : β} (h : (x >>= f) = .ok b) :
    exists a, x = .ok a ∧ f a = .ok b := by
  cases x with
  | error rejection => cases h
  | ok a => exact ⟨a, rfl, h⟩

theorem seconds_le {a : Argument} {limit n : Nat} {value : OsText}
    (h : a.seconds limit value = .ok n) : n ≤ limit := by
  rcases bind_ok h with ⟨literal, _, hRead⟩
  split at hRead
  · split at hRead
    · next hRange =>
        cases hRead
        exact hRange.2
    · cases hRead
  · cases hRead

theorem count_le {a : Argument} {low high n : Nat} {value : OsText}
    (h : a.count low high value = .ok n) : n ≤ high := by
  rcases bind_ok h with ⟨literal, _, hRead⟩
  split at hRead
  · split at hRead
    · next hRange =>
        cases hRead
        omega
    · cases hRead
  · cases hRead

theorem lt_of_seconds {a : Argument} {limit n : Nat} {value : OsText}
    (h : a.seconds limit value = .ok n) (hLimit : limit < Nat.pow 2 64) :
    forall m, m ∈ some n -> m < Nat.pow 2 64 := by
  intro m hMem
  cases hMem
  exact Nat.lt_of_le_of_lt (seconds_le h) hLimit

theorem lt_of_pin {a : Argument} {n : Nat} {value : OsText}
    (h : a.count 0 pinLimit value = .ok n) : forall m, m ∈ some n -> m < Nat.pow 2 32 := by
  intro m hMem
  cases hMem
  have hLimit : pinLimit < Nat.pow 2 32 := by decide
  exact Nat.lt_of_le_of_lt (count_le h) hLimit

theorem apply_fits {a : Argument} {value : OsText} {g next : Given} (hFits : g.kept.Fits)
    (h : a.apply value g = .ok next) : next.kept.Fits := by
  obtain ⟨hTemperature, hLeak, hLeakPin, hPumpPin, hOzonePin⟩ := hFits
  cases a with
  | temperatureInterval =>
      rcases bind_ok h with ⟨n, hRead, hNext⟩
      cases hNext
      exact ⟨lt_of_seconds hRead (by decide), hLeak, hLeakPin, hPumpPin, hOzonePin⟩
  | leakInterval =>
      rcases bind_ok h with ⟨n, hRead, hNext⟩
      cases hNext
      exact ⟨hTemperature, lt_of_seconds hRead (by decide), hLeakPin, hPumpPin, hOzonePin⟩
  | leakPin =>
      rcases bind_ok h with ⟨n, hRead, hNext⟩
      cases hNext
      exact ⟨hTemperature, hLeak, lt_of_pin hRead, hPumpPin, hOzonePin⟩
  | pumpPin =>
      rcases bind_ok h with ⟨n, hRead, hNext⟩
      cases hNext
      exact ⟨hTemperature, hLeak, hLeakPin, lt_of_pin hRead, hOzonePin⟩
  | ozonePin =>
      rcases bind_ok h with ⟨n, hRead, hNext⟩
      cases hNext
      exact ⟨hTemperature, hLeak, hLeakPin, hPumpPin, lt_of_pin hRead⟩
  | help => cases h
  | version => cases h
  | leakActiveLow | debug | clear =>
      cases h
      exact ⟨hTemperature, hLeak, hLeakPin, hPumpPin, hOzonePin⟩
  | sensors | store | databasePath | targetTolerance | maxOzoneMinutes | notifier
  | notificationSubject | deviceRoot | roomSensor | waterSensor | logLevel | logFile =>
      rcases bind_ok h with ⟨word, _, hNext⟩
      cases hNext
      exact ⟨hTemperature, hLeak, hLeakPin, hPumpPin, hOzonePin⟩

end Argument

/-- Some command line says this. -/
def Given.Accepted (g : Given) : Prop :=
  exists arguments, Given.read arguments = .ok g

theorem accepted_fits {g : Given} (h : g.Accepted) : g.kept.Fits := by
  rcases h with ⟨arguments, hRead⟩
  have hStart : (Given.kept {}).Fits := Saved.fits_empty
  exact CommandLine.read_invariant (fun g => g.kept.Fits)
    (fun _ _ _ _ hFits hTaken => Argument.apply_fits hFits hTaken) hStart hRead

theorem fits_chosen {given saved : Option Nat} {default limit : Nat}
    (hGiven : forall n, n ∈ given -> n < limit) (hSaved : forall n, n ∈ saved -> n < limit)
    (hDefault : default < limit) : forall n, n ∈ some (choose given saved default) -> n < limit := by
  intro n hMem
  cases hMem
  cases given with
  | some n => exact hGiven n rfl
  | none =>
      cases saved with
      | some n => exact hSaved n rfl
      | none => exact hDefault

theorem fits_resolve {g : Given} {c : Saved} (hGiven : g.kept.Fits) (hSaved : c.Fits) :
    (resolve g c).toSaved.Fits where
  temperatureInterval :=
    fits_chosen hGiven.temperatureInterval hSaved.temperatureInterval (by decide)
  leakInterval := fits_chosen hGiven.leakInterval hSaved.leakInterval (by decide)
  leakPin := fits_chosen hGiven.leakPin hSaved.leakPin (by decide)
  pumpPin := fits_chosen hGiven.pumpPin hSaved.pumpPin (by decide)
  ozonePin := fits_chosen hGiven.ozonePin hSaved.ozonePin (by decide)

end Settings
end TubMonitor

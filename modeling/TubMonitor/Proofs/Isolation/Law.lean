import TubMonitor.Proofs.Isolation.Abreast
import TubMonitor.Proofs.Isolation.Exchanges
import TubMonitor.Proofs.Isolation.Leak
import TubMonitor.Proofs.Isolation.Ozone
import TubMonitor.Proofs.Isolation.Temperature
import TubMonitor.Proofs.Ozone.Law

/-!
# The law of isolation

What a loop does, and what becomes of its commands, is the same whatever the other loops,
the console and the sink are about.
-/

namespace TubMonitor
namespace Monitor

/-!
## What a part shows
-/

/-- What the account of a loop tells about the state. -/
structure ShowsAlike (source : Notice.Source) (s t : Monitor) : Prop where
  panel : s.snapshot.only source = t.snapshot.only source
  rows : s.outside.store.only source = t.outside.store.only source
  waiting : s.waiting source = t.waiting source

theorem ozone_shows {s t : Monitor} (h : ozonePart s = ozonePart t) :
    ShowsAlike .ozone s t := by
  have hAlike := ozonePart_eq.mp h
  have hShown := congrArg Ozone.Controller.shown hAlike.state
  change s.ozone.state.shown = t.ozone.state.shown at hShown
  have hHeld := congrArg (fun c => c.held.length) hAlike.state
  simp only [Ozone.Controller.anonymous_held] at hHeld
  refine ⟨?_, hAlike.rows, ?_⟩
  · simp only [Snapshot.only, snapshot, hShown, hAlike.now]
  · rw [waiting, waiting, hHeld, Mailbox.pending_alike hAlike.box]

theorem leak_shows {s t : Monitor} (h : leakPart s = leakPart t) : ShowsAlike .leak s t := by
  have hAlike := leakPart_eq.mp h
  refine ⟨?_, hAlike.rows, rfl⟩
  simp only [Snapshot.only, snapshot, hAlike.state]

theorem temperature_shows {s t : Monitor} (h : temperaturePart s = temperaturePart t) :
    ShowsAlike .temperature s t := by
  have hAlike := temperaturePart_eq.mp h
  refine ⟨?_, hAlike.rows, Mailbox.pending_alike hAlike.box⟩
  simp only [Snapshot.only, snapshot, hAlike.state]

/-!
## The law
-/

theorem account_alike {π : Type} {source : Notice.Source} {part : Monitor -> π} {s t : Monitor}
    {hs ks : List Happening} (hAgrees : Agrees source part s hs t ks)
    (hFirst : Rendezvous (s.scenes hs) (s.after hs))
    (hSecond : Rendezvous (t.scenes ks) (t.after ks))
    (hShows : ShowsAlike source (s.after hs) (t.after ks)) :
    account source (s.scenes hs) (s.after hs) = account source (t.scenes ks) (t.after ks) := by
  rw [account, account, hShows.panel, hShows.rows,
    exchanges_alike hFirst hSecond hAgrees.marks hShows.waiting, attempts_alike hAgrees.marks]

/--
Take any two sessions, however they go, in which a loop is configured alike, finds the
same rows, is sent the same at the same moments, and makes calls that take as long and
come out alike.  At whatever moment they are compared, the panel shows the same of the
loop, its rows are the same, and so are the commands that were sent to it, how and when
each of them came out, and the messages that it tried to send.
-/
theorem loop_isolation (source : Notice.Source) (fates : Nat -> Fate)
    (config other : Config) (now : Nat) (outside elsewhere : Outside)
    (sink sinkToo : Option Notice.Sink) (hs ks : List Happening) :
    let s := assemble config now outside sink
    let t := assemble other now elsewhere sinkToo
    config.only source = other.only source ->
    outside.store.only source = elsewhere.store.only source ->
    Session s hs source fates 0 -> Session t ks source fates 0 ->
    arrivals source 0 (s.scenes hs) = arrivals source 0 (t.scenes ks) ->
    (s.after hs).moment source (stepsTaken source 0 (s.scenes hs)) =
      (t.after ks).moment source (stepsTaken source 0 (t.scenes ks)) ->
    account source (s.scenes hs) (s.after hs) = account source (t.scenes ks) (t.after ks) := by
  intro s t hConfig hRows hFirst hSecond hArrivals hMoment
  have hSound : Sound s := sound_assemble config now outside sink
  have hSoundToo : Sound t := sound_assemble other now elsewhere sinkToo
  have hMail : Rendezvous (s.scenes hs) (s.after hs) :=
    rendezvous_after config now outside sink hs
  have hMailToo : Rendezvous (t.scenes ks) (t.after ks) :=
    rendezvous_after other now elsewhere sinkToo ks
  cases source with
  | ozone =>
      have hPart : ozonePart s = ozonePart t :=
        ozonePart_eq.mpr ⟨rfl, rfl, rfl, rfl, hRows⟩
      have hAgrees := abreast_agrees ozone_unwinding
        ⟨⟨hSound, hSoundToo, hConfig, hPart⟩, hFirst, hSecond, hArrivals, hMoment⟩
      exact account_alike hAgrees hMail hMailToo (ozone_shows hAgrees.part)
  | leak =>
      have hPart : leakPart s = leakPart t := leakPart_eq.mpr ⟨rfl, rfl, rfl, hRows⟩
      have hAgrees := abreast_agrees leak_unwinding
        ⟨⟨hSound, hSoundToo, hConfig, hPart⟩, hFirst, hSecond, hArrivals, hMoment⟩
      exact account_alike hAgrees hMail hMailToo (leak_shows hAgrees.part)
  | temperature =>
      have hPart : temperaturePart s = temperaturePart t :=
        temperaturePart_eq.mpr ⟨rfl, rfl, rfl, rfl, hRows⟩
      have hAgrees := abreast_agrees temperature_unwinding
        ⟨⟨hSound, hSoundToo, hConfig, hPart⟩, hFirst, hSecond, hArrivals, hMoment⟩
      exact account_alike hAgrees hMail hMailToo (temperature_shows hAgrees.part)

def troubled : Monitor :=
  assemble ⟨1000, 2000, 2.0, 60, "tub"⟩ 0
    { bank := .tub .standard
      store := .memory .empty
      conditions :=
        { Conditions.fair with
          delay := fun kind => if kind = .temperatures then 500 else 0
          fault := fun kind => if kind = .leak then some (.sensor "leak" "") else none } }
    (some { delay := 5, fault := fun _ => some (.notification "") })

def crowdedRun : List Happening :=
  [ .start, .turn .leak, .turn .ozone, .turn .temperature, .turn .ozone, .send (.target none)
  , .send (.ozone (.start 5)), .turn .leak, .turn .ozone, .turn .ozone, .turn .leak
  , .turn .ozone ]

def prompt : Fate :=
  { delay := 0, failure := none, reading := .switched (.ok ()) }

/-- What takes no time and changes nothing outside by itself. -/
def Happening.isPrompt : Happening -> Bool
  | .turn _ | .start | .send _ => true
  | _ => false

theorem orderly_prompt {s : Monitor} {hs : List Happening} {source : Notice.Source}
    (h : hs.all Happening.isPrompt = true) :
    forall scene, scene ∈ s.scenes hs -> scene.Orderly source := by
  intro scene hScene
  rcases mem_scenes hScene with ⟨first, rest, rfl, _⟩
  have hPrompt : scene.happening.isPrompt = true := by
    simp only [List.all_append, List.all_cons, Bool.and_eq_true] at h
    exact h.2.1
  refine ⟨?_, ?_, ?_⟩
  · intro moment now hWait
    rw [hWait] at hPrompt
    cases hPrompt
  · intro outside hShift
    rw [hShift] at hPrompt
    cases hPrompt
  · intro hCancel
    rw [hCancel] at hPrompt
    cases hPrompt

theorem session_firstRun : Session simulated firstRun .ozone (fun _ => prompt) 0 where
  orderly := orderly_prompt rfl
  meets := by
    refine ⟨?_, ?_, ?_, ?_, ?_, ?_, ?_, trivial⟩
    all_goals
      constructor
      · exact fun _ _ => rfl
      · intro pending hTurn hPending _
        cases hTurn <;> cases hPending <;> rfl

theorem session_crowdedRun : Session troubled crowdedRun .ozone (fun _ => prompt) 0 where
  orderly := orderly_prompt rfl
  meets := by
    refine ⟨?_, ?_, ?_, ?_, ?_, ?_, ?_, ?_, ?_, ?_, ?_, ?_, trivial⟩
    all_goals
      constructor
      · intro call hCall
        first
        | rcases List.mem_singleton.mp hCall with rfl
          rfl
        | cases hCall
      · intro pending hTurn hPending _
        cases hTurn <;> cases hPending <;> rfl

theorem loop_isolation_crowdedRun :
    Session simulated firstRun .ozone (fun _ => prompt) 0 ∧
      Session troubled crowdedRun .ozone (fun _ => prompt) 0 ∧
      account .ozone (simulated.scenes firstRun) (simulated.after firstRun) =
        account .ozone (troubled.scenes crowdedRun) (troubled.after crowdedRun) ∧
      (simulated.after firstRun).hasEnded .temperature = true ∧
      (troubled.after crowdedRun).hasEnded .temperature = false := by
  have hArrivals : arrivals .ozone 0 (simulated.scenes firstRun) =
      arrivals .ozone 0 (troubled.scenes crowdedRun) := by decide +kernel
  have hMoment : (simulated.after firstRun).moment .ozone
        (stepsTaken .ozone 0 (simulated.scenes firstRun)) =
      (troubled.after crowdedRun).moment .ozone
        (stepsTaken .ozone 0 (troubled.scenes crowdedRun)) := by decide +kernel
  have hAccount := loop_isolation .ozone (fun _ => prompt) ⟨0, 0, 1.0, 60, ""⟩
    ⟨1000, 2000, 2.0, 60, "tub"⟩ 0 ⟨.tub .standard, .memory .empty, .fair⟩ troubled.outside none
    troubled.sink firstRun crowdedRun rfl rfl session_firstRun session_crowdedRun hArrivals hMoment
  exact ⟨session_firstRun, session_crowdedRun, hAccount, by decide, by decide⟩

end Monitor
end TubMonitor

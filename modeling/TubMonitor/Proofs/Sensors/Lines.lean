import Mathlib.Data.List.Induction
import TubMonitor.Proofs.FileTree.Parents
import TubMonitor.Proofs.Sensors.Generator

/-!
# Lines as a tub

Three files hold what a simulated tub holds in three bits.  As long as no two of them stand in one
place, a relay that is switched changes no line but its own, and the lines answer as the tub does
that started like them.
-/

namespace TubMonitor

namespace FileTree

theorem readText_put_other {t : FileTree} {path : OsText} {place found : Place}
    (bytes : ByteArray) (hFree : t.isDirectory place = false) (hNotLink : t.NotLink place)
    (hResolve : t.resolve path = .ok found) (hNe : found ≠ place) :
    (t.put place (.file bytes)).readText path = t.readText path := by
  have hAgain := resolve_guides (guides_put_file bytes hFree hNotLink) hResolve
  have hNode := node?_put_other t hNe (.file bytes)
  simp [readText, readBytes, find, hResolve, hAgain, hNode, bind, Except.bind]

theorem write_free {t : FileTree} {path : OsText} {place : Place} {bytes : ByteArray}
    (hResolve : t.resolve path = .ok place) (hFree : t.isDirectory place = false) :
    t.write path bytes = .ok (t.put place (.file bytes)) := by
  simp [write, hResolve, hFree, bind, Except.bind]

end FileTree

namespace Sensors

/-!
## Three lines in three places
-/

inductive Line where
  | leak
  | relay (device : Device)

def Wiring.linePin (w : Wiring) : Line -> Nat
  | .leak => w.leakPin
  | .relay device => w.pin device

/-- Each line has a file of its own. -/
structure Sited (w : Wiring) (t : FileTree) (site : Line -> FileTree.Place) : Prop where
  leads : forall line, t.resolve (w.linePath (w.linePin line)) = .ok (site line)
  file : forall line, exists bytes, t.node? (site line) = some (.file bytes)
  apart : Function.Injective site

/-- The file of a line holds this level, with any blanks around it. -/
def Wiring.Shows (w : Wiring) (t : FileTree) (line : Line) (level : Bool) : Prop :=
  exists text, t.readText (w.linePath (w.linePin line)) = .ok text ∧
    Text.trim text.toList = (levelText level).toList

theorem Wiring.level?_trim {text : String} {level : Bool}
    (h : Text.trim text.toList = (levelText level).toList) : level? text = some level := by
  have hRow : (levelText level).toList = [if level then '1' else '0'] := by
    cases level <;> rfl
  unfold level?
  rw [h, hRow]
  cases level <;> rfl

theorem Wiring.readLine_shows {w : Wiring} {t : FileTree} {line : Line} {level : Bool}
    (h : w.Shows t line level) : w.readLine t (w.linePin line) = .ok level := by
  rcases h with ⟨text, hRead, hText⟩
  unfold readLine
  simp only [hRead, level?_trim hText]

theorem Wiring.shows_levelText {w : Wiring} {t : FileTree} {line : Line} {level : Bool}
    (h : t.readText (w.linePath (w.linePin line)) = .ok (levelText level)) :
    w.Shows t line level := by
  refine ⟨levelText level, h, ?_⟩
  cases level <;> rfl

section

variable {w : Wiring} {t : FileTree} {site : Line -> FileTree.Place}

theorem sited_not_directory (h : Sited w t site) (line : Line) :
    t.isDirectory (site line) = false := by
  rcases h.file line with ⟨bytes, hFile⟩
  simp [FileTree.isDirectory, hFile, FileTree.Node.isDirectory]

theorem sited_notLink (h : Sited w t site) (line : Line) : t.NotLink (site line) :=
  FileTree.resolve_notLink (h.leads line)

theorem sited_put (h : Sited w t site) (line : Line) (bytes : ByteArray) :
    Sited w (t.put (site line) (.file bytes)) site := by
  have hFree := sited_not_directory h line
  constructor
  · intro other
    exact FileTree.resolve_guides
      (FileTree.guides_put_file bytes hFree (sited_notLink h line)) (h.leads other)
  · intro other
    by_cases hSame : site other = site line
    · exact ⟨bytes, hSame ▸ FileTree.node?_put_self t (FileTree.top_of_not_isDirectory hFree) _⟩
    · rw [FileTree.node?_put_other t hSame]
      exact h.file other
  · exact h.apart

theorem shows_put_other (h : Sited w t site) {line other : Line} {level : Bool}
    (hNe : other ≠ line) (bytes : ByteArray) (hShows : w.Shows t other level) :
    w.Shows (t.put (site line) (.file bytes)) other level := by
  rcases hShows with ⟨text, hRead, hText⟩
  refine ⟨text, ?_, hText⟩
  rw [FileTree.readText_put_other bytes (sited_not_directory h line) (sited_notLink h line)
    (h.leads other) (fun hSame => hNe (h.apart hSame))]
  exact hRead

/-!
## Lines without links

Where nothing is a link, a line's file stands under the number of its pin.
-/

def lineName (pin : Nat) : String :=
  "gpio" ++ toString pin

theorem slash_lineName (pin : Nat) :
    FileTree.slash ∉ (OsText.ofString (lineName pin)).bytes := by
  intro hByte
  have hMem : '/' ∈ (lineName pin).toList := OsText.mem_of_plain hByte (by decide)
  rw [lineName, String.toList_append, List.mem_append] at hMem
  rcases hMem with hFront | hDigit
  · exact absurd hFront (by decide)
  · rw [Nat.toString_eq_repr, Nat.toList_repr] at hDigit
    have hIsDigit : Char.isDigit '/' = true :=
      Nat.isDigit_of_mem_toDigits (by decide) (by decide) hDigit
    exact absurd hIsDigit (by decide)

theorem lineName_ne {pin : Nat} {name : String} (h : name.toList.head? ≠ some 'g') :
    OsText.ofString (lineName pin) ≠ name := by
  intro hSame
  rw [OsText.ofString_inj] at hSame
  subst hSame
  exact h (by simp [lineName])

theorem lineName_leads (pin : Nat) : FileTree.isFiller (lineName pin) = false ∧
    OsText.ofString (lineName pin) ≠ ".." := by
  have hEmpty : OsText.ofString (lineName pin) ≠ "" := lineName_ne (by decide)
  have hDot : OsText.ofString (lineName pin) ≠ "." := lineName_ne (by decide)
  have hSome : (OsText.ofString (lineName pin)).isEmpty = false := by
    rw [Bool.eq_false_iff, Ne, OsText.isEmpty_ofString, ← OsText.ofString_inj]
    exact hEmpty
  exact ⟨by simp [FileTree.isFiller, hSome, hDot], lineName_ne (by decide)⟩

theorem lineName_injective {pin other : Nat}
    (h : OsText.ofString (lineName pin) = OsText.ofString (lineName other)) : pin = other := by
  have hRows := congrArg String.toList (OsText.ofString_inj.mp h)
  rw [lineName, lineName, String.toList_append, String.toList_append,
    List.append_cancel_left_eq] at hRows
  simp only [Nat.toString_eq_repr, Nat.toList_repr] at hRows
  have hDigits := congrArg (Nat.ofDigitChars 10 · 0) hRows
  simpa [Nat.ofDigitChars_ten_toDigits] using hDigits

theorem place_of_line (hLinkless : forall place, t.NotLink place) {pin : Nat}
    {place : FileTree.Place} (h : t.resolve (w.linePath pin) = .ok place) :
    exists holder : FileTree.Place,
      place = OsText.ofString "value" :: OsText.ofString (lineName pin) :: holder := by
  rcases FileTree.components_beside
    (FileTree.join (FileTree.join w.root "class") "gpio") with ⟨above, hAbove⟩
  have hEmpty : OsText.ofString (lineName pin) ≠ "" := lineName_ne (by decide)
  have hSome : (OsText.ofString (lineName pin)).bytes ≠ [] :=
    fun hNothing => hEmpty (congrArg OsText.mk hNothing)
  have hEnds := FileTree.not_ends_join (FileTree.join (FileTree.join w.root "class") "gpio")
    hSome (slash_lineName pin)
  have hNames : FileTree.components (w.linePath pin) =
      above ++ [OsText.ofString (lineName pin)] ++ [("value" : OsText)] := by
    rw [← hAbove _ (slash_lineName pin)]
    exact FileTree.components_join hEnds (by decide)
  rcases FileTree.resolve_ok_iff.mp h with ⟨names, hChecked, hTrail⟩
  rw [(FileTree.checkedComponents_ok hChecked).1, hNames] at hTrail
  exact FileTree.trail_ends hLinkless (lineName_leads pin) (by decide) hTrail

theorem sited_of_linkless (hLinkless : forall place, t.NotLink place)
    (hPins : Function.Injective w.linePin)
    (hFiles : forall line, exists place bytes,
      t.resolve (w.linePath (w.linePin line)) = .ok place ∧ t.node? place = some (.file bytes)) :
    exists site, Sited w t site := by
  rcases Classical.skolem.mp hFiles with ⟨site, hFiles⟩
  have hLeads (line : Line) : t.resolve (w.linePath (w.linePin line)) = .ok (site line) := by
    rcases hFiles line with ⟨_, hLeads, _⟩
    exact hLeads
  have hFile (line : Line) : exists bytes, t.node? (site line) = some (.file bytes) := by
    rcases hFiles line with ⟨bytes, _, hFile⟩
    exact ⟨bytes, hFile⟩
  refine ⟨site, hLeads, hFile, fun line other hSame => ?_⟩
  rcases place_of_line hLinkless (hLeads line) with ⟨holder, hLine⟩
  rcases place_of_line hLinkless (hLeads other) with ⟨beside, hOther⟩
  rw [hLine, hOther, List.cons.injEq, List.cons.injEq] at hSame
  exact hPins (lineName_injective hSame.2.1)

end

/-!
## Requests one after another
-/

/-- All requests but that for the temperatures are answered by lines. -/
def Request.isForLine : Request -> Bool
  | .temperatures => false
  | _ => true

namespace Bank

/-- The answers to several requests, and the bank after them. -/
def answers (b : Bank) : List Request -> List Answer × Bank
  | [] => ([], b)
  | request :: rest =>
      let (found, next) := b.answer request
      let (others, last) := next.answers rest
      (found :: others, last)

theorem answers_cons (b : Bank) (request : Request) (rest : List Request) :
    b.answers (request :: rest) =
      ((b.answer request).1 :: ((b.answer request).2.answers rest).1,
        ((b.answer request).2.answers rest).2) := rfl

theorem answers_append (b : Bank) (before after : List Request) :
    b.answers (before ++ after) =
      ((b.answers before).1 ++ ((b.answers before).2.answers after).1,
        ((b.answers before).2.answers after).2) := by
  induction before generalizing b with
  | nil => rfl
  | cons request before ih => rw [List.cons_append, answers_cons, answers_cons, ih]; rfl

theorem answers_length (b : Bank) (requests : List Request) :
    (b.answers requests).1.length = requests.length := by
  induction requests generalizing b with
  | nil => rfl
  | cons request rest ih => simp [answers_cons, ih]

end Bank

/-- What a request for a line leaves of a simulated tub. -/
def Tub.served (tub : Tub) : Request -> Tub
  | .switch device on => tub.switch device on
  | _ => tub

theorem answer_tub {tub : Tub} {request : Request} (h : request.isForLine = true) :
    ((Bank.tub tub).answer request).2 = .tub (tub.served request) := by
  cases request with
  | temperatures => cases h
  | leak => rfl
  | pumpStatus => rfl
  | switch device on => rfl

theorem answers_tub {tub : Tub} {requests : List Request}
    (h : forall request, request ∈ requests -> request.isForLine = true) :
    ((Bank.tub tub).answers requests).2 = .tub (requests.foldl Tub.served tub) := by
  induction requests generalizing tub with
  | nil => rfl
  | cons request rest ih =>
      rw [Bank.answers_cons, answer_tub (h request List.mem_cons_self)]
      exact ih fun other hMem => h other (List.mem_cons_of_mem _ hMem)

theorem served_leak (tub : Tub) (requests : List Request) :
    (requests.foldl Tub.served tub).leak = tub.leak := by
  induction requests generalizing tub with
  | nil => rfl
  | cons request rest ih =>
      rw [List.foldl_cons, ih]
      cases request <;> rfl

/-- The last request that switches a device leaves it so; without any it stays as it started. -/
def LeftAt (device : Device) (started : Bool) (requests : List Request) (on : Bool) : Prop :=
  ((forall level, .switch device level ∉ requests) ∧ on = started) ∨
    exists front back, requests = front ++ .switch device on :: back ∧
      forall level, .switch device level ∉ back

theorem served_power (tub : Tub) (device : Device) (requests : List Request) :
    LeftAt device (tub.power.get device) requests
      ((requests.foldl Tub.served tub).power.get device) := by
  induction requests generalizing tub with
  | nil => exact Or.inl ⟨by simp, rfl⟩
  | cons request rest ih =>
      rw [List.foldl_cons]
      rcases ih (tub.served request) with ⟨hIdle, hKept⟩ | ⟨front, back, hRest, hBack⟩
      · by_cases hSwitch : exists on, request = .switch device on
        · rcases hSwitch with ⟨on, rfl⟩
          have hOn : ((tub.served (.switch device on)).power.get device) = on :=
            Power.get_set_self ..
          rw [hKept, hOn]
          exact Or.inr ⟨[], rest, rfl, hIdle⟩
        · refine Or.inl ⟨?_, ?_⟩
          · intro level hMem
            rcases List.mem_cons.mp hMem with hHere | hLater
            · exact hSwitch ⟨level, hHere.symm⟩
            · exact hIdle level hLater
          · rw [hKept]
            cases request with
            | temperatures => rfl
            | leak => rfl
            | pumpStatus => rfl
            | switch other on =>
                have hNe : device ≠ other := by
                  rintro rfl
                  exact hSwitch ⟨on, rfl⟩
                exact Power.get_set_other tub.power hNe on
      · exact Or.inr ⟨request :: front, back, congrArg (request :: ·) hRest, hBack⟩

/-!
## One request
-/

section

variable {w : Wiring} {site : Line -> FileTree.Place}

/-- Whatever a request changes of a tree stands where the line that it switches stands. -/
def Touches (site : Line -> FileTree.Place) (request : Request) (t next : FileTree) : Prop :=
  forall place, (forall device on, request = .switch device on -> place ≠ site (.relay device)) ->
    next.node? place = t.node? place

/-- The lines are sited, and show what the tub has of the leak and of the pump. -/
structure Mirrors (w : Wiring) (site : Line -> FileTree.Place) (t : FileTree) (tub : Tub) :
    Prop where
  sited : Sited w t site
  leak : exists level, w.Shows t .leak level ∧ tub.leak = (level != w.leakActiveLow)
  pump : w.Shows t (.relay .pump) tub.power.pump

theorem switch_of_write {t written : FileTree} {device : Device} {on : Bool}
    (h : t.writeText (w.linePath (w.pin device)) (Wiring.levelText on) = .ok written) :
    w.switch t device on = .ok written := by
  unfold Wiring.switch
  simp only [h]

theorem switch_of_fault {t : FileTree} {device : Device} {on : Bool} {problem : OsError}
    (h : t.writeText (w.linePath (w.pin device)) (Wiring.levelText on) = .error problem) :
    w.switch t device on =
      .error (.actuator device.name ((w.linePath (w.pin device)).shown ++ ": " ++ problem.message)) := by
  unfold Wiring.switch
  simp only [h]

theorem switch_files {t next : FileTree} {device : Device} {on : Bool}
    (h : w.switch t device on = .ok next) :
    (Bank.files w t).switch device on = (.ok (), .files w next) := by
  unfold Bank.switch
  simp only [h]

theorem switch_files_fault {t : FileTree} {device : Device} {on : Bool} {fault : Fault}
    (h : w.switch t device on = .error fault) :
    (Bank.files w t).switch device on = (.error fault, .files w t) := by
  unfold Bank.switch
  simp only [h]

/-- A relay that is switched shows it, and every other line shows what it has shown. -/
theorem shows_switch {t : FileTree} (h : Sited w t site) (device : Device) (on : Bool) :
    exists next, w.switch t device on = .ok next ∧ Sited w next site ∧
      w.Shows next (.relay device) on ∧
      (forall line level, line ≠ .relay device -> w.Shows t line level ->
        w.Shows next line level) ∧
      forall place, place ≠ site (.relay device) -> next.node? place = t.node? place := by
  have hWritten : t.writeText (w.linePath (w.pin device)) (Wiring.levelText on) =
      .ok (t.put (site (.relay device)) (.file (Wiring.levelText on).toUTF8)) :=
    FileTree.write_free (h.leads (.relay device)) (sited_not_directory h _)
  refine ⟨_, switch_of_write hWritten, sited_put h _ _, ?_, ?_, ?_⟩
  · exact Wiring.shows_levelText (FileTree.readText_writeText hWritten)
  · intro line level hNe hShows
    exact shows_put_other h hNe _ hShows
  · intro place hNe
    exact FileTree.node?_put_other t hNe _

theorem answer_mirrors {t : FileTree} {tub : Tub} {request : Request} (h : Mirrors w site t tub)
    (hLine : request.isForLine = true) :
    exists next, (Bank.files w t).answer request =
        (((Bank.tub tub).answer request).1, .files w next) ∧
      Mirrors w site next (tub.served request) ∧ Touches site request t next ∧
      forall device, (w.Shows t (.relay device) (tub.power.get device) ∨
          exists on, request = .switch device on) ->
        w.Shows next (.relay device) ((tub.served request).power.get device) := by
  rcases h.leak with ⟨level, hLevel, hLeak⟩
  have hStill : Touches site request t t := fun _ _ => rfl
  cases request with
  | temperatures => cases hLine
  | leak =>
      have hRead : w.leak t = .ok tub.leak := by
        have hLine := Wiring.readLine_shows hLevel
        unfold Wiring.leak
        rw [show w.readLine t w.leakPin = .ok level from hLine, hLeak]
      refine ⟨t, ?_, h, hStill, ?_⟩
      · simp only [Bank.answer, Bank.leak, hRead]
      · rintro device (hShown | ⟨on, hSwitch⟩)
        · exact hShown
        · cases hSwitch
  | pumpStatus =>
      have hRead : w.isOn t .pump = .ok tub.power.pump := by
        have hPump := Wiring.readLine_shows h.pump
        unfold Wiring.isOn
        exact hPump
      refine ⟨t, ?_, h, hStill, ?_⟩
      · simp only [Bank.answer, Bank.isPumpOn, hRead]
      · rintro device (hShown | ⟨on, hSwitch⟩)
        · exact hShown
        · cases hSwitch
  | switch device on =>
      rcases shows_switch h.sited device on with ⟨next, hSwitch, hSited, hShown, hOthers, hFrame⟩
      have hDevices : forall other,
          (w.Shows t (.relay other) (tub.power.get other) ∨
            exists level, Request.switch device on = .switch other level) ->
          w.Shows next (.relay other) ((tub.switch device on).power.get other) := by
        intro other hOther
        by_cases hSame : other = device
        · subst hSame
          have hPower : (tub.switch other on).power.get other = on := Power.get_set_self ..
          rw [hPower]
          exact hShown
        · have hPower : (tub.switch device on).power.get other = tub.power.get other :=
            Power.get_set_other tub.power hSame on
          rw [hPower]
          rcases hOther with hOther | ⟨_, hSwitched⟩
          · exact hOthers _ _ (fun hLine => hSame (by injection hLine)) hOther
          · have hDevice : device = other := by injection hSwitched
            exact absurd hDevice.symm hSame
      refine ⟨next, ?_, ?_, ?_, hDevices⟩
      · rw [answer_switch, switch_files hSwitch]
        rfl
      · exact ⟨hSited, ⟨level, hOthers _ _ (fun hLine => by cases hLine) hLevel, hLeak⟩,
          hDevices .pump (Or.inl h.pump)⟩
      · intro place hPlace
        exact hFrame place (hPlace device on rfl)

/-!
## Many requests
-/

theorem answers_mirrors {t : FileTree} {tub : Tub} {requests : List Request}
    (h : Mirrors w site t tub)
    (hLines : forall request, request ∈ requests -> request.isForLine = true) :
    exists last, (Bank.files w t).answers requests =
        (((Bank.tub tub).answers requests).1, .files w last) ∧
      Mirrors w site last (requests.foldl Tub.served tub) ∧
      forall device, (w.Shows t (.relay device) (tub.power.get device) ∨
          exists on, .switch device on ∈ requests) ->
        w.Shows last (.relay device) ((requests.foldl Tub.served tub).power.get device) := by
  induction requests generalizing t tub with
  | nil =>
      refine ⟨t, rfl, h, ?_⟩
      rintro device (hShown | ⟨on, hMem⟩)
      · exact hShown
      · cases hMem
  | cons request rest ih =>
      rcases answer_mirrors h (hLines request List.mem_cons_self) with
        ⟨next, hAnswer, hNext, _, hHere⟩
      rcases ih hNext fun other hMem => hLines other (List.mem_cons_of_mem _ hMem) with
        ⟨last, hRest, hLast, hLater⟩
      refine ⟨last, ?_, hLast, ?_⟩
      · rw [Bank.answers_cons, Bank.answers_cons, hAnswer, hRest,
          answer_tub (hLines request List.mem_cons_self)]
      · rintro device (hShown | ⟨on, hMem⟩)
        · exact hLater device (Or.inl (hHere device (Or.inl hShown)))
        · rcases List.mem_cons.mp hMem with hSwitch | hMem
          · exact hLater device (Or.inl (hHere device (Or.inr ⟨on, hSwitch.symm⟩)))
          · exact hLater device (Or.inr ⟨on, hMem⟩)

/-- Everything that the lines show of several requests is what the tub shows of them. -/
structure Refines (w : Wiring) (site : Line -> FileTree.Place) (t : FileTree) (tub : Tub)
    (requests : List Request) : Prop where
  answers : ((Bank.files w t).answers requests).1 = ((Bank.tub tub).answers requests).1
  pumpStatus : forall before after, requests = before ++ .pumpStatus :: after ->
    exists on, ((Bank.files w t).answers requests).1[before.length]? = some (.level (.ok on)) ∧
      LeftAt .pump tub.power.pump before on
  leak : forall before after, requests = before ++ .leak :: after ->
    ((Bank.files w t).answers requests).1[before.length]? = some (.level (.ok tub.leak))
  /-- A request changes nothing beside the file of the line that it switches. -/
  touches : forall before request after, requests = before ++ request :: after ->
    exists here next, ((Bank.files w t).answers before).2 = .files w here ∧
      ((Bank.files w t).answers (before ++ [request])).2 = .files w next ∧
      Touches site request here next
  /-- What has been shown from the start, or has been switched, is shown in the end. -/
  shown : exists last tubLast, ((Bank.files w t).answers requests).2 = .files w last ∧
    ((Bank.tub tub).answers requests).2 = .tub tubLast ∧ Mirrors w site last tubLast ∧
    forall device, (w.Shows t (.relay device) (tub.power.get device) ∨
        exists on, .switch device on ∈ requests) ->
      w.Shows last (.relay device) (tubLast.power.get device)

theorem answer_at {tub : Tub} {before after : List Request} {request : Request}
    (hLines : forall other, other ∈ before -> other.isForLine = true) :
    ((Bank.tub tub).answers (before ++ request :: after)).1[before.length]? =
      some ((Bank.tub (before.foldl Tub.served tub)).answer request).1 := by
  have hLength := Bank.answers_length (.tub tub) before
  rw [Bank.answers_append, Bank.answers_cons, answers_tub hLines]
  simp [← hLength]

theorem refines_of_mirrors {t : FileTree} {tub : Tub} {requests : List Request}
    (h : Mirrors w site t tub)
    (hLines : forall request, request ∈ requests -> request.isForLine = true) :
    Refines w site t tub requests := by
  rcases answers_mirrors h hLines with ⟨last, hAnswers, hLast, hShown⟩
  have hSame := congrArg Prod.fst hAnswers
  refine ⟨hSame, ?_, ?_, ?_, last, _, congrArg Prod.snd hAnswers, answers_tub hLines, hLast, hShown⟩
  · rintro before after rfl
    refine ⟨(before.foldl Tub.served tub).power.pump, ?_, served_power tub .pump before⟩
    rw [hSame, answer_at fun other hMem => hLines other (List.mem_append_left _ hMem)]
    rfl
  · rintro before after rfl
    rw [hSame, answer_at fun other hMem => hLines other (List.mem_append_left _ hMem),
      ← served_leak tub before]
    rfl
  · rintro before request after rfl
    rcases answers_mirrors h fun other hMem => hLines other (List.mem_append_left _ hMem) with
      ⟨here, hBefore, hHere, _⟩
    rcases answer_mirrors hHere (hLines request (by simp)) with ⟨next, hNext, _, hTouches, _⟩
    refine ⟨here, next, congrArg Prod.snd hBefore, ?_, hTouches⟩
    rw [Bank.answers_append, hBefore, Bank.answers_cons, hNext]
    rfl

end

/-!
## Switching in any tree
-/

/-- A relay is switched where its path ends at no directory; otherwise nothing has been done. -/
structure SwitchesOrSpares (w : Wiring) (t : FileTree) (device : Device) (on : Bool) : Prop where
  switches : ((Bank.files w t).switch device on).1 = .ok () ->
    exists place, t.resolve (w.linePath (w.pin device)) = .ok place ∧
      t.isDirectory place = false ∧
      ((Bank.files w t).switch device on).2 =
        .files w (t.put place (.file (Wiring.levelText on).toUTF8))
  spares : forall fault, ((Bank.files w t).switch device on).1 = .error fault ->
    (exists problem : OsError, fault =
      .actuator device.name ((w.linePath (w.pin device)).shown ++ ": " ++ problem.message)) ∧
    ((Bank.files w t).switch device on).2 = .files w t ∧
    forall place, t.resolve (w.linePath (w.pin device)) = .ok place ->
      t.isDirectory place = true

theorem switches_or_spares (w : Wiring) (t : FileTree) (device : Device) (on : Bool) :
    SwitchesOrSpares w t device on := by
  cases hWrite : t.writeText (w.linePath (w.pin device)) (Wiring.levelText on) with
  | ok written =>
      have hFiles := switch_files (switch_of_write hWrite)
      rcases FileTree.write_ok hWrite with ⟨place, hResolve, hFree, rfl⟩
      constructor
      · intro _
        exact ⟨place, hResolve, hFree, congrArg Prod.snd hFiles⟩
      · intro fault hFault
        rw [hFiles] at hFault
        cases hFault
  | error problem =>
      have hFiles := switch_files_fault (switch_of_fault hWrite)
      constructor
      · intro hOk
        rw [hFiles] at hOk
        cases hOk
      · intro fault hFault
        rw [hFiles] at hFault
        refine ⟨⟨problem, (Except.error.inj hFault).symm⟩, congrArg Prod.snd hFiles, ?_⟩
        intro place hResolve
        cases hPlace : t.isDirectory place with
        | true => rfl
        | false =>
            rw [FileTree.writeText, FileTree.write_free hResolve hPlace] at hWrite
            cases hWrite

theorem line_refinement_law :
    (forall {w : Wiring} {site : Line -> FileTree.Place} {t : FileTree} {tub : Tub}
        {requests : List Request}, Mirrors w site t tub ->
      (forall request, request ∈ requests -> request.isForLine = true) ->
      Refines w site t tub requests) ∧
    forall (w : Wiring) (t : FileTree) (device : Device) (on : Bool),
      SwitchesOrSpares w t device on :=
  ⟨refines_of_mirrors, switches_or_spares⟩

/-!
## A wet tub with the pump running

The leak line is wet when it is low.  The ozone line shows no level at first.
-/

def relayTree : FileTree :=
  ⟨ [ (["value", "gpio17", "gpio", "class", "sys"], .file "0\n".toUTF8)
    , (["value", "gpio27", "gpio", "class", "sys"], .file " 1 ".toUTF8)
    , (["value", "gpio22", "gpio", "class", "sys"], .file "".toUTF8)
    , (["gpio17", "gpio", "class", "sys"], .directory)
    , (["gpio27", "gpio", "class", "sys"], .directory)
    , (["gpio22", "gpio", "class", "sys"], .directory)
    , (["gpio", "class", "sys"], .directory)
    , (["class", "sys"], .directory)
    , (["sys"], .directory) ] ⟩

def relayWiring : Wiring :=
  { root := "/sys", roomProbe := "28-1", waterProbe := "28-2"
    leakPin := 17, pumpPin := 27, ozonePin := 22, leakActiveLow := true }

def relayTub : Tub :=
  { Tub.standard with leak := true, power := ⟨true, false⟩ }

def relayRequests : List Request :=
  [.switch .ozone true, .pumpStatus, .switch .pump false, .switch .ozone false, .pumpStatus, .leak]

def relaySite : Line -> FileTree.Place
  | .leak => ["value", "gpio17", "gpio", "class", "sys"]
  | .relay .pump => ["value", "gpio27", "gpio", "class", "sys"]
  | .relay .ozone => ["value", "gpio22", "gpio", "class", "sys"]

theorem relayTree_files (line : Line) : exists bytes,
    relayTree.resolve (relayWiring.linePath (relayWiring.linePin line)) = .ok (relaySite line) ∧
      relayTree.node? (relaySite line) = some (.file bytes) := by
  rcases line with _ | _ | _
  · exact ⟨"0\n".toUTF8, by decide +kernel, rfl⟩
  · exact ⟨" 1 ".toUTF8, by decide +kernel, rfl⟩
  · exact ⟨"".toUTF8, by decide +kernel, rfl⟩

theorem relayTree_shows {line : Line} {text : String} {level : Bool}
    (hFile : relayTree.node? (relaySite line) = some (.file text.toByteArray))
    (hText : Text.trim text.toList = (Wiring.levelText level).toList) :
    relayWiring.Shows relayTree line level := by
  rcases relayTree_files line with ⟨_, hLeads, _⟩
  exact ⟨text, FileTree.readText_ok_iff.mpr
    ⟨relaySite line, _, hLeads, hFile, FileTree.fromUTF8?_toByteArray text⟩, hText⟩

theorem leakLine_file :
    relayTree.node? (relaySite .leak) = some (.file "0\n".toByteArray) := rfl

theorem pumpLine_file :
    relayTree.node? (relaySite (.relay .pump)) = some (.file " 1 ".toByteArray) := rfl

theorem line_refinement_law_wetTub :
    exists site, Mirrors relayWiring site relayTree relayTub ∧
      Refines relayWiring site relayTree relayTub relayRequests ∧
      ((Bank.files relayWiring relayTree).answers relayRequests).1 =
        [.switched (.ok ()), .level (.ok true), .switched (.ok ()), .switched (.ok ()),
          .level (.ok false), .level (.ok true)] := by
  have hLinkless : forall place, relayTree.NotLink place :=
    FileTree.linkless_of_rows (by simp [relayTree])
  have hPins : Function.Injective relayWiring.linePin := by
    intro line other hSame
    rcases line with _ | _ | _ <;> rcases other with _ | _ | _ <;>
      first | rfl | exact absurd hSame (by decide)
  have hFiles (line : Line) : exists place bytes,
      relayTree.resolve (relayWiring.linePath (relayWiring.linePin line)) = .ok place ∧
        relayTree.node? place = some (.file bytes) := by
    rcases relayTree_files line with ⟨bytes, hFile⟩
    exact ⟨relaySite line, bytes, hFile⟩
  rcases sited_of_linkless hLinkless hPins hFiles with ⟨site, hSited⟩
  have hLeak : relayWiring.Shows relayTree .leak false := relayTree_shows leakLine_file (by decide)
  have hPump : relayWiring.Shows relayTree (.relay .pump) true :=
    relayTree_shows pumpLine_file (by decide)
  have hMirrors : Mirrors relayWiring site relayTree relayTub := ⟨hSited, ⟨false, hLeak, rfl⟩, hPump⟩
  have hForLines : forall request, request ∈ relayRequests -> request.isForLine = true := by decide
  have hRefines := line_refinement_law.1 hMirrors hForLines
  exact ⟨site, hMirrors, hRefines, hRefines.answers.trans rfl⟩

end Sensors
end TubMonitor

import Faultline.Proofs.Console.Detection
import Faultline.Proofs.Session.Reporting
import Mathlib.Data.List.Induction

/-!
# Colours do not change by themselves

Between warnings, colours are pinned and left to be settled anew, variables of the environment change
and so does the stream. `ColoredBy` says whether the next warning is coloured, by what happened
before it and without the flag that the console keeps: as it was pinned last, or else as was decided
when the first warning came since colours were left to be settled.

Results:
* `console_meet`, `writes_meet`: what an event does to the console.
* `surroundings_meetAll`: the environment and the stream after events.
* `colored_meetAll`, `colored_meetAll_none`: what was pinned or settled stays, and nothing is settled
  without a warning.
* `ColoredBy.isColored`: what was pinned or settled is what the console has.
* `exists_coloredBy`: something was pinned or settled, or is settled now.
* `mark_of_warning`: which mark a warning has, and that warnings with no pinning between them have
  the same.
-/

namespace Faultline

/-- What happens at a desk. -/
inductive Event where
  /-- Colours are pinned, or left to be settled anew. -/
  | pin (colored : Option Bool)
  /-- A variable of the environment is set or unset. -/
  | setVariable (name : Text) (value : Option Text)
  /-- Another stream is written to. -/
  | redirect (stream : Stream)
  | warn (line file t : Value)
  | warnMessage (t : Text)

namespace Event

/-- Whether an event is about pinning. -/
def isPin : Event → Bool
  | .pin _ => true
  | .setVariable _ _ | .redirect _ | .warn _ _ _ | .warnMessage _ => false

/-- What a warning shows behind its mark. Other events show nothing, and neither does a call whose
    line or file is refused or cannot be written. -/
def body? (directory : Option Text) : Event → Option Text
  | .warn line file t =>
    match coerceLine line with
    | .ok n => (Desk.placedText directory (.int n) file t).toOption
    | .error _ => none
  | .warnMessage t => some t
  | .pin _ | .setVariable _ _ | .redirect _ => none

/-- What an event other than a warning does to the console. -/
def change : Event → Console → Console
  | .pin colored => fun c => c.pin colored
  | .setVariable name value => fun c => c.setVariable name value
  | .redirect stream => fun c => c.redirect stream
  | .warn _ _ _ | .warnMessage _ => id

/-- What a variable was set to last, if it was set or unset. -/
def setting? (name : Text) (es : List Event) : Option (Option Text) :=
  (es.filterMap fun
    | .setVariable n value => if n = name then some value else none
    | _ => none).getLast?

/-- The variables after events. -/
def environmentAfter (start : Text → Option Text) (es : List Event) : Text → Option Text :=
  fun name => (setting? name es).getD (start name)

/-- The stream after events. -/
def streamAfter (start : Stream) (es : List Event) : Stream :=
  ((es.filterMap fun
    | .redirect stream => some stream
    | _ => none).getLast?).getD start

theorem environmentAfter_concat (start : Text → Option Text) (es : List Event) (e : Event) :
    environmentAfter start (es ++ [e]) =
      match e with
      | .setVariable name value => fun n => if n = name then value else environmentAfter start es n
      | .pin _ | .redirect _ | .warn _ _ _ | .warnMessage _ => environmentAfter start es := by
  funext n
  cases e with
  | setVariable name value =>
    by_cases hn : n = name
    · simp [environmentAfter, setting?, hn]
    · simp [environmentAfter, setting?, hn, Ne.symm hn]
  | pin | redirect | warn | warnMessage => simp [environmentAfter, setting?]

theorem streamAfter_concat (start : Stream) (es : List Event) (e : Event) :
    streamAfter start (es ++ [e]) =
      match e with
      | .redirect stream => stream
      | .pin _ | .setVariable _ _ | .warn _ _ _ | .warnMessage _ => streamAfter start es := by
  cases e with
  | redirect => simp [streamAfter]
  | pin | setVariable | warn | warnMessage => simp [streamAfter]

end Event

/-- Whether the next warning is coloured, after events in a directory from a start at which nothing
    was pinned or settled. -/
inductive ColoredBy (directory : Option Text) (start : Console) (before : List Event) : Bool → Prop
  where
  /-- As colours were pinned last. -/
  | pinned (earlier later : List Event) {b : Bool}
    (hbefore : before = earlier ++ .pin (some b) :: later)
    (hlater : ∀ e ∈ later, e.isPin = false) : ColoredBy directory start before b
  /-- As was decided at the first warning since the start or since colours were left to be settled;
      that may be the next one. -/
  | settled (earlier quiet later : List Event) {b : Bool}
    (hbefore : before = earlier ++ quiet ++ later)
    (hearlier : earlier = [] ∨ ∃ es, earlier = es ++ [.pin none])
    (hquiet : ∀ e ∈ quiet, e.isPin = false ∧ e.body? directory = none)
    (hfirst : ∀ w ∈ later.head?, (w.body? directory).isSome = true)
    (hlater : ∀ e ∈ later, e.isPin = false)
    (hdetects : Console.Detects (Event.environmentAfter start.environment (earlier ++ quiet))
      (Event.streamAfter start.stream (earlier ++ quiet)) b) :
    ColoredBy directory start before b

namespace Console

/-- The mark of a warning, coloured or not. -/
def markOf (colored : Bool) : Text :=
  if colored then text "\x1b[33mwarning: \x1b[0m" else text "warning: "

theorem warningMark_eq (c : Console) : c.warningMark = markOf c.isColored := by
  rw [warningMark, colorize, markOf]
  split_ifs
  · decide +kernel
  · rfl

theorem isColored_of_colored {c : Console} {b : Bool} (h : c.colored = some b) : c.isColored = b := by
  rw [isColored, h, Option.getD_some]

theorem isColored_of_none {c : Console} (h : c.colored = none) : c.isColored = c.detect := by
  rw [isColored, h, Option.getD_none]

end Console

namespace Desk

/-- An event at a desk. -/
def meet (d : Desk) : Event → Desk
  | .pin colored => { d with console := d.console.pin colored }
  | .setVariable name value => { d with console := d.console.setVariable name value }
  | .redirect stream => { d with console := d.console.redirect stream }
  | .warn line file t => (d.warn line file t).2
  | .warnMessage t => d.warnMessage t

/-- Events at a desk, one after the other. -/
def meetAll (d : Desk) (es : List Event) : Desk := es.foldl meet d

/-! ## Single events -/

/-- A warning settles colours and is written behind its mark, and a call that is refused does
    neither. -/
theorem console_writes_warn (d : Desk) (line file t : Value) :
    (d.warn line file t).2.console =
        (match (Event.warn line file t).body? d.directory with
          | some _ => d.console.settle
          | none => d.console) ∧
      (d.warn line file t).2.writes = d.writes ++
        (((Event.warn line file t).body? d.directory).map fun body =>
          d.console.warningMark ++ body ++ text "\n").toList := by
  cases hline : coerceLine line with
  | error failure =>
    rw [warn_of_coerceLine_error d file t hline]
    simp [Event.body?, hline]
  | ok n =>
    cases hbody : placedText d.directory (.int n) file t with
    | error failure =>
      rw [warn_of_placedText_error d hline hbody, tellSession_console, tellSession_writes]
      simp [Event.body?, hline, hbody, Except.toOption]
    | ok body =>
      rw [warn_eq d hline hbody, writes_warnMessage, tellSession_writes, tellSession_console]
      simp only [Event.body?, hline, hbody, Except.toOption, Option.map_some, Option.toList_some,
        and_true]
      show (Desk.tellSession _ Session.registerWarning).console.settle = _
      rw [tellSession_console, tellSession_console]

theorem directory_meet (d : Desk) (e : Event) : (d.meet e).directory = d.directory := by
  cases e with
  | pin | setVariable | redirect => rfl
  | warn line file t => exact (reported_warn d line file t).directory
  | warnMessage t => exact (reported_warnMessage d t).directory

/-- A warning settles colours, and another event does to the console what it is about. -/
theorem console_meet (d : Desk) (e : Event) :
    (d.meet e).console =
      match e.body? d.directory with
      | some _ => d.console.settle
      | none => e.change d.console := by
  cases e with
  | pin | setVariable | redirect => rfl
  | warn line file t => exact (console_writes_warn d line file t).1
  | warnMessage t => exact congrArg Console.settle (tellSession_console d _)

/-- A warning is written behind its mark, and nothing else is written. -/
theorem writes_meet (d : Desk) (e : Event) :
    (d.meet e).writes = d.writes ++
      ((e.body? d.directory).map fun body => d.console.warningMark ++ body ++ text "\n").toList := by
  cases e with
  | pin | setVariable | redirect => exact (List.append_nil _).symm
  | warn line file t => exact (console_writes_warn d line file t).2
  | warnMessage t => exact writes_warnMessage d t

section

variable {d : Desk} {e : Event}

/-- What was pinned or settled stays unless it is pinned anew. -/
theorem colored_meet {b : Bool} (hpin : e.isPin = false) (h : d.console.colored = some b) :
    (d.meet e).console.colored = some b := by
  rw [console_meet]
  split
  · exact congrArg some (Console.isColored_of_colored h)
  · cases e with
    | pin => cases hpin
    | setVariable | redirect | warn | warnMessage => exact h

/-- Nothing is settled without a warning. -/
theorem colored_meet_none (hpin : e.isPin = false) (hbody : e.body? d.directory = none)
    (h : d.console.colored = none) : (d.meet e).console.colored = none := by
  rw [console_meet, hbody]
  cases e with
  | pin => cases hpin
  | setVariable | redirect | warn | warnMessage => exact h

/-- A warning settles what is detected. -/
theorem colored_meet_warning (hbody : (e.body? d.directory).isSome = true)
    (h : d.console.colored = none) : (d.meet e).console.colored = some d.console.detect := by
  obtain ⟨body, hbody⟩ := Option.isSome_iff_exists.mp hbody
  rw [console_meet, hbody]
  exact congrArg some (Console.isColored_of_none h)

end

/-! ## Runs of events -/

section

variable (d : Desk)

theorem meetAll_cons (e : Event) (es : List Event) : d.meetAll (e :: es) = (d.meet e).meetAll es :=
  rfl

theorem meetAll_append (es es' : List Event) : d.meetAll (es ++ es') = (d.meetAll es).meetAll es' :=
  List.foldl_append

theorem meetAll_singleton (e : Event) : d.meetAll [e] = d.meet e := rfl

@[simp] theorem directory_meetAll (es : List Event) : (d.meetAll es).directory = d.directory := by
  induction es generalizing d with
  | nil => rfl
  | cons e es ih => rw [meetAll_cons, ih, directory_meet]

/-- The variables and the stream are what they were set to last. -/
theorem surroundings_meetAll (es : List Event) :
    (d.meetAll es).console.environment = Event.environmentAfter d.console.environment es ∧
      (d.meetAll es).console.stream = Event.streamAfter d.console.stream es := by
  induction es using List.reverseRecOn with
  | nil => exact ⟨rfl, rfl⟩
  | append_singleton es e ih =>
    obtain ⟨henvironment, hstream⟩ := ih
    rw [meetAll_append, meetAll_singleton, console_meet, Event.environmentAfter_concat,
      Event.streamAfter_concat]
    split
    next hbody =>
      cases e with
      | pin | setVariable | redirect => cases hbody
      | warn | warnMessage => exact ⟨henvironment, hstream⟩
    · cases e with
      | setVariable name value =>
        exact ⟨funext fun n => congrArg (ite (n = name) value) (congrFun henvironment n), hstream⟩
      | redirect stream => exact ⟨henvironment, rfl⟩
      | pin | warn | warnMessage => exact ⟨henvironment, hstream⟩

end

section

variable {d : Desk} {es : List Event}

/-- What was pinned or settled stays as long as nothing is pinned. -/
theorem colored_meetAll {b : Bool} (hpin : ∀ e ∈ es, e.isPin = false)
    (h : d.console.colored = some b) : (d.meetAll es).console.colored = some b := by
  induction es generalizing d with
  | nil => exact h
  | cons e es ih =>
    rw [List.forall_mem_cons] at hpin
    exact ih hpin.2 (colored_meet hpin.1 h)

/-- Nothing is settled as long as nothing is pinned and no warning comes. -/
theorem colored_meetAll_none (hquiet : ∀ e ∈ es, e.isPin = false ∧ e.body? d.directory = none)
    (h : d.console.colored = none) : (d.meetAll es).console.colored = none := by
  induction es generalizing d with
  | nil => exact h
  | cons e es ih =>
    obtain ⟨⟨hpin, hbody⟩, hquiet⟩ := List.forall_mem_cons.mp hquiet
    rw [← directory_meet d e] at hquiet
    exact ih hquiet (colored_meet_none hpin hbody h)

/-- Nothing is settled at the start or once colours were left to be settled. -/
theorem colored_meetAll_unsettled (h : d.console.colored = none)
    (hes : es = [] ∨ ∃ earlier, es = earlier ++ [.pin none]) :
    (d.meetAll es).console.colored = none := by
  obtain rfl | ⟨earlier, rfl⟩ := hes
  · exact h
  · rw [meetAll_append]
    rfl

/-- A warning after events is written behind the mark that the console has by then. -/
theorem writes_concat {b : Bool} {w : Event} {body : Text}
    (hcolored : (d.meetAll es).console.isColored = b) (hw : w.body? d.directory = some body) :
    (d.meetAll (es ++ [w])).writes =
      (d.meetAll es).writes ++ [Console.markOf b ++ body ++ text "\n"] := by
  rw [meetAll_append, meetAll_singleton, writes_meet, directory_meetAll, hw,
    Console.warningMark_eq, hcolored]
  rfl

end

end Desk

/-! ## What decides -/

theorem Console.exists_detects (environment : Text → Option Text) (stream : Stream) :
    ∃ b, Console.Detects environment stream b :=
  ⟨_, (detects_iff (c := ⟨none, environment, stream⟩)).mpr rfl⟩

/-- What was pinned or settled is what the console has. -/
theorem ColoredBy.isColored {d : Desk} {before : List Event} {b : Bool}
    (h : ColoredBy d.directory d.console before b) (hstart : d.console.colored = none) :
    (d.meetAll before).console.isColored = b := by
  cases h with
  | pinned earlier later hbefore hlater =>
    rw [hbefore, Desk.meetAll_append, Desk.meetAll_cons]
    exact Console.isColored_of_colored (Desk.colored_meetAll hlater rfl)
  | settled earlier quiet later hbefore hearlier hquiet hfirst hlater hdetects =>
    rw [hbefore, Desk.meetAll_append]
    have hnone : (d.meetAll (earlier ++ quiet)).console.colored = none := by
      rw [Desk.meetAll_append]
      rw [← Desk.directory_meetAll d earlier] at hquiet
      exact Desk.colored_meetAll_none hquiet (Desk.colored_meetAll_unsettled hstart hearlier)
    have hdetect : (d.meetAll (earlier ++ quiet)).console.detect = b := by
      obtain ⟨henvironment, hstream⟩ := d.surroundings_meetAll (earlier ++ quiet)
      rw [← henvironment, ← hstream] at hdetects
      exact Console.detects_iff.mp hdetects
    rw [← Desk.directory_meetAll d (earlier ++ quiet)] at hfirst
    -- no warning came so far, or the first one settled what was detected
    cases later with
    | nil => exact (Console.isColored_of_none hnone).trans hdetect
    | cons w later =>
      have hsettled := Desk.colored_meet_warning (hfirst w rfl) hnone
      rw [hdetect] at hsettled
      rw [Desk.meetAll_cons]
      exact Console.isColored_of_colored
        (Desk.colored_meetAll (List.forall_mem_cons.mp hlater).2 hsettled)

section

variable {directory : Option Text} {start : Console} {before : List Event}

/-- An event that pins nothing leaves something pinned or settled, or to be settled. -/
theorem ColoredBy.concat {b : Bool} {e : Event} (h : ColoredBy directory start before b)
    (hpin : e.isPin = false) : ∃ c, ColoredBy directory start (before ++ [e]) c := by
  cases h with
  | pinned earlier later hbefore hlater =>
    refine ⟨b, .pinned earlier (later ++ [e]) (by rw [hbefore]; simp) ?_⟩
    simpa [or_imp, forall_and, hpin] using hlater
  | settled earlier quiet later hbefore hearlier hquiet hfirst hlater hdetects =>
    have hlater' : ∀ e' ∈ later ++ [e], e'.isPin = false := by
      simpa [or_imp, forall_and, hpin] using hlater
    cases later with
    | cons w later =>
      exact ⟨b, .settled earlier quiet (w :: later ++ [e]) (by rw [hbefore, List.append_assoc])
        hearlier hquiet hfirst hlater' hdetects⟩
    | nil =>
      cases hbody : e.body? directory with
      | some body =>
        -- the event is the first warning, at which it is decided
        refine ⟨b, .settled earlier quiet ([] ++ [e]) (by rw [hbefore, List.append_assoc])
          hearlier hquiet ?_ hlater' hdetects⟩
        rintro _ ⟨⟩
        rw [hbody]
        rfl
      | none =>
        obtain ⟨c, hc⟩ := Console.exists_detects
          (Event.environmentAfter start.environment (earlier ++ (quiet ++ [e])))
          (Event.streamAfter start.stream (earlier ++ (quiet ++ [e])))
        refine ⟨c, .settled earlier (quiet ++ [e]) [] (by rw [hbefore]; simp) hearlier ?_ nofun
          nofun hc⟩
        simpa [or_imp, forall_and, hpin, hbody] using hquiet

/-- Something was pinned or settled, or is settled at the next warning. -/
theorem exists_coloredBy (directory : Option Text) (start : Console) (before : List Event) :
    ∃ b, ColoredBy directory start before b := by
  induction before using List.reverseRecOn with
  | nil =>
    obtain ⟨b, hb⟩ := Console.exists_detects start.environment start.stream
    exact ⟨b, .settled [] [] [] rfl (.inl rfl) nofun nofun nofun hb⟩
  | append_singleton es e ih =>
    cases e with
    | pin colored =>
      cases colored with
      | some b => exact ⟨b, .pinned es [] rfl nofun⟩
      | none =>
        obtain ⟨b, hb⟩ := Console.exists_detects
          (Event.environmentAfter start.environment (es ++ [.pin none] ++ []))
          (Event.streamAfter start.stream (es ++ [.pin none] ++ []))
        exact ⟨b, .settled (es ++ [.pin none]) [] [] (by simp) (.inr ⟨es, rfl⟩) nofun nofun nofun
          hb⟩
    | setVariable | redirect | warn | warnMessage =>
      obtain ⟨b, hb⟩ := ih
      exact hb.concat rfl

end

/-- A warning has its mark in colours exactly if that was pinned last, or was decided at the first
    warning since nothing was pinned. Warnings with no pinning between them have the same mark,
    whatever else changed. -/
theorem Desk.mark_of_warning (d : Desk) (hstart : d.console.colored = none) (before : List Event)
    {w : Event} {body : Text} (hw : w.body? d.directory = some body) :
    ∃ b, (∀ c, ColoredBy d.directory d.console before c ↔ c = b) ∧
      (d.meetAll (before ++ [w])).writes =
        (d.meetAll before).writes ++ [Console.markOf b ++ body ++ text "\n"] ∧
      ∀ (between : List Event) (w' : Event) (body' : Text), (∀ e ∈ between, e.isPin = false) →
        w'.body? d.directory = some body' →
        (d.meetAll (before ++ w :: between ++ [w'])).writes =
          (d.meetAll (before ++ w :: between)).writes ++
            [Console.markOf b ++ body' ++ text "\n"] := by
  obtain ⟨b, hb⟩ := exists_coloredBy d.directory d.console before
  have hcolored := hb.isColored hstart
  refine ⟨b, fun c => ⟨fun hc => (hc.isColored hstart).symm.trans hcolored, ?_⟩,
    writes_concat hcolored hw, fun between w' body' hpin hw' => ?_⟩
  · rintro rfl
    exact hb
  · refine writes_concat ?_ hw'
    have hsettled : ((d.meetAll before).meet w).console.colored = some b := by
      rw [console_meet, directory_meetAll, hw]
      exact congrArg some hcolored
    rw [meetAll_append, meetAll_cons]
    exact Console.isColored_of_colored (colored_meetAll hpin hsettled)

/-- Colours are on when the first warning comes, and still on at the second, though the variable for
    them is gone by then and the one against them is set. -/
theorem Desk.mark_of_warning_unpinned :
    (∀ c, ColoredBy none Console.initial
        [.pin (some false), .pin none, .setVariable Console.colorVariable (some (text " ON\n"))] c ↔
          c = true) ∧
      ((Desk.initial none Console.initial).meetAll
        ([.pin (some false), .pin none,
            .setVariable Console.colorVariable (some (text " ON\n"))] ++
          .warnMessage (text "first") ::
          [.setVariable Console.colorVariable none, .redirect .terminal,
            .setVariable Console.noColorVariable (some (text "1")), .warn (.int (-1)) .none .none] ++
          [.warn (.int 3) (.string (text "a.ex")) (.string (text "second"))])).writes =
        [text "\x1b[33mwarning: \x1b[0mfirst\n",
          text "\x1b[33mwarning: \x1b[0msecond\n  a.ex:3\n"] := by
  obtain ⟨b, hb, -, hlater⟩ := Desk.mark_of_warning (Desk.initial none Console.initial) rfl
    [.pin (some false), .pin none, .setVariable Console.colorVariable (some (text " ON\n"))]
    (show (Event.warnMessage (text "first")).body? none = some (text "first") from rfl)
  have hon : Console.SpellsWord (Console.wordsFor true) (text " ON\n") :=
    Console.settingOf?_eq_some_iff.mp (by decide +kernel)
  obtain rfl : true = b := (hb true).mp (.settled [.pin (some false), .pin none]
    [.setVariable Console.colorVariable (some (text " ON\n"))] [] rfl
    (.inr ⟨[.pin (some false)], rfl⟩) (by simp [Event.isPin, Event.body?]) nofun nofun
    (.word rfl hon))
  refine ⟨hb, (hlater _ _ (text "second\n  a.ex:3") ?_ ?_).trans ?_⟩
  · simp [Event.isPin]
  · decide +kernel
  · decide +kernel

end Faultline

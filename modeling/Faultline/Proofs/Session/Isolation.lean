import Faultline.Proofs.Session.Reporting
import Mathlib.Data.List.InsertIdx
import Mathlib.Data.List.Perm.Basic
import Mathlib.Logic.Function.Basic

/-!
# Threads do not see each other

Threads share the sessions, the console and the numbering of tokens; each has a context of its own.
They act in any order, one act at a time. `View` is what one thread has to itself: the session that
is registered, and for each token that it holds what the token brings back and whether it was used.
The numbers of the tokens are left out, because they depend on what the other threads do.

Results:
* `Orderly.act`: no two tokens have one number, and the token of a block stays unused inside it.
* `view_act_self`, `view_act_other`: an act changes the view of its own thread only, and changes it
  by what the view says.
* `view_run`, `sessions_run`: a view, and a session that one thread registers, after a run are what
  the acts of the one thread make of them.
* `run_isolated`: a thread sees what it sees if it runs alone.
-/

namespace Faultline

/-- What a thread does. -/
inductive Act where
  /-- Enters a block with a session. -/
  | enter (session : Nat)
  /-- Leaves one of the blocks it is in, counted from the last one entered. -/
  | leave (index : Nat)
  /-- Registers a session, or none, and keeps the token. -/
  | set (session : Option Nat)
  /-- Gives one of the tokens it kept back, counted from the last one made. -/
  | reset (index : Nat)
  | warn (line file t : Value)
  | warnMessage (t : Text)

namespace Act

/-- The session that an act registers. -/
def session? : Act → Option Nat
  | .enter session => some session
  | .set session => session
  | .leave _ | .reset _ | .warn _ _ _ | .warnMessage _ => none

/-- What an act does to the session that is registered. -/
def change (directory : Option Text) : Act → Session → Session
  | .warn line file t => Session.warned directory line file t
  | .warnMessage _ => fun s => s.registerWarning.2
  | .enter _ | .leave _ | .set _ | .reset _ => id

end Act

/-- Threads at a desk. The context of a thread has the thread's number. -/
structure Threads where
  desk : Desk
  /-- The tokens of the blocks that each thread is in, the last one entered first. -/
  blocks : Nat → List ResetToken
  /-- The tokens that each thread kept, the last one made first. -/
  tokens : Nat → List ResetToken

namespace Threads

/-- Threads with sessions, none of which is registered. -/
def opening (directory : Option Text) (console : Console) (sessions : Nat → Session) : Threads where
  desk := { Desk.initial directory console with sessions := sessions }
  blocks := fun _ => []
  tokens := fun _ => []

/-- The session that is registered in a thread. -/
def current (s : Threads) (t : Nat) : Option Nat := (s.desk.leaveContext t).current

/-- An act of a thread. To leave a block or to give a token back that the thread does not have does
    nothing. -/
def act (s : Threads) (t : Nat) (a : Act) : Threads :=
  let d := s.desk.leaveContext t
  match a with
  | .enter session =>
    let (k, after) := d.setSession (some session)
    { s with desk := after, blocks := Function.update s.blocks t (k :: s.blocks t) }
  | .leave index =>
    match (s.blocks t)[index]? with
    | none => { s with desk := d }
    | some k =>
      { s with
        desk := (d.resetSession k).2
        blocks := Function.update s.blocks t ((s.blocks t).eraseIdx index) }
  | .set session =>
    let (k, after) := d.setSession session
    { s with desk := after, tokens := Function.update s.tokens t (k :: s.tokens t) }
  | .reset index =>
    match (s.tokens t)[index]? with
    | none => { s with desk := d }
    | some k => { s with desk := (d.resetSession k).2 }
  | .warn line file x => { s with desk := (d.warn line file x).2 }
  | .warnMessage x => { s with desk := d.warnMessage x }

/-- Acts of threads, one after the other. -/
def run (s : Threads) (acts : List (Nat × Act)) : Threads :=
  acts.foldl (fun s o => s.act o.1 o.2) s

/-- The tokens that a thread holds. -/
def held (s : Threads) (t : Nat) : List ResetToken := s.blocks t ++ s.tokens t

/-! ## Tokens -/

/-- The tokens that threads hold were made by them under different numbers, and those of blocks were
    not used. -/
structure Orderly (s : Threads) : Prop where
  own : ∀ t, ∀ k ∈ s.held t, k.context = t
  made : ∀ t, ∀ k ∈ s.held t, k.number < s.desk.freshToken
  nodup : ∀ t, ((s.held t).map ResetToken.number).Nodup
  apart : ∀ t u, ∀ k ∈ s.held t, ∀ l ∈ s.held u, k.number = l.number → t = u
  unspent : ∀ t, ∀ k ∈ s.blocks t, s.desk.isUsed k.number = false
  unused : ∀ n, s.desk.freshToken ≤ n → s.desk.isUsed n = false

theorem orderly_opening (directory : Option Text) (console : Console) (sessions : Nat → Session) :
    (opening directory console sessions).Orderly where
  own _ _ h := nomatch h
  made _ _ h := nomatch h
  nodup _ := List.nodup_nil
  apart _ _ _ h := nomatch h
  unspent _ _ h := nomatch h
  unused _ _ := rfl

section Orderly

variable {s s' : Threads} {t : Nat} {k : ResetToken}

/-- Threads with the same tokens are as orderly. -/
theorem Orderly.of_same (h : s.Orderly) (hblocks : s'.blocks = s.blocks)
    (htokens : s'.tokens = s.tokens) (hfresh : s'.desk.freshToken = s.desk.freshToken)
    (hused : s'.desk.isUsed = s.desk.isUsed) : s'.Orderly := by
  have hheld : s'.held = s.held := by
    funext u
    rw [held, held, hblocks, htokens]
  exact {
    own := hheld ▸ h.own
    made := by rw [hheld, hfresh]; exact h.made
    nodup := hheld ▸ h.nodup
    apart := hheld ▸ h.apart
    unspent := by rw [hblocks, hused]; exact h.unspent
    unused := by rw [hfresh, hused]; exact h.unused }

/-- A thread may hold a token that was made just now. -/
theorem Orderly.hold (h : s.Orderly) (hheld : (s'.held t).Perm (k :: s.held t))
    (hothers : ∀ u, u ≠ t → s'.held u = s.held u)
    (hblocks : ∀ u, ∀ l ∈ s'.blocks u, l = k ∨ l ∈ s.blocks u)
    (hcontext : k.context = t) (hnumber : k.number = s.desk.freshToken)
    (hfresh : s'.desk.freshToken = s.desk.freshToken + 1)
    (hused : s'.desk.isUsed = s.desk.isUsed) : s'.Orderly := by
  have hmem : ∀ u, ∀ l ∈ s'.held u, (l = k ∧ u = t) ∨ l ∈ s.held u := by
    intro u l hl
    by_cases hu : u = t
    · subst hu
      rcases List.mem_cons.mp (hheld.mem_iff.mp hl) with hl | hl
      · exact .inl ⟨hl, rfl⟩
      · exact .inr hl
    · exact .inr (hothers u hu ▸ hl)
  exact {
    own := fun u l hl => by
      rcases hmem u l hl with ⟨rfl, rfl⟩ | hl
      · exact hcontext
      · exact h.own u l hl
    made := fun u l hl => by
      rcases hmem u l hl with ⟨rfl, rfl⟩ | hl
      · omega
      · have := h.made u l hl
        omega
    nodup := fun u => by
      by_cases hu : u = t
      · subst hu
        rw [(hheld.map ResetToken.number).nodup_iff, List.map_cons, List.nodup_cons]
        refine ⟨fun hk => ?_, h.nodup u⟩
        obtain ⟨l, hl, heq⟩ := List.mem_map.mp hk
        have := h.made u l hl
        omega
      · rw [hothers u hu]
        exact h.nodup u
    apart := fun u v l hl m hm heq => by
      rcases hmem u l hl with ⟨rfl, rfl⟩ | hl <;> rcases hmem v m hm with ⟨rfl, rfl⟩ | hm
      · rfl
      · have := h.made v m hm
        omega
      · have := h.made u l hl
        omega
      · exact h.apart u v l hl m hm heq
    unspent := fun u l hl => by
      rw [hused]
      rcases hblocks u l hl with rfl | hl
      · exact h.unused _ (Nat.le_of_eq hnumber.symm)
      · exact h.unspent u l hl
    unused := fun n hn => by
      rw [hused]
      exact h.unused n (by omega) }

/-- A token that a thread holds may be used, if it is not the token of a block that stays. -/
theorem Orderly.spend (h : s.Orderly) (hk : k ∈ s.held t)
    (hheld : ∀ u, (s'.held u).Sublist (s.held u))
    (hblocks : ∀ u, ∀ l ∈ s'.blocks u, l ∈ s.blocks u ∧ l.number ≠ k.number)
    (hfresh : s'.desk.freshToken = s.desk.freshToken)
    (hused : ∀ n, s'.desk.isUsed n = (decide (n = k.number) || s.desk.isUsed n)) : s'.Orderly where
  own u l hl := h.own u l ((hheld u).subset hl)
  made u l hl := hfresh ▸ h.made u l ((hheld u).subset hl)
  nodup u := ((hheld u).map _).nodup (h.nodup u)
  apart u v l hl m hm := h.apart u v l ((hheld u).subset hl) m ((hheld v).subset hm)
  unspent u l hl := by
    obtain ⟨hl, hne⟩ := hblocks u l hl
    rw [hused, decide_eq_false hne, Bool.false_or]
    exact h.unspent u l hl
  unused n hn := by
    have := h.made t k hk
    rw [hused, decide_eq_false (by omega), Bool.false_or]
    exact h.unused n (by omega)

theorem Orderly.number_ne (h : s.Orderly) {u : Nat} (hu : u ≠ t) {l : ResetToken}
    (hk : k ∈ s.held t) (hl : l ∈ s.held u) : l.number ≠ k.number :=
  fun heq => hu (h.apart u t l hl k hk heq)

theorem Orderly.block_ne_token (h : s.Orderly) {l : ResetToken} (hk : k ∈ s.blocks t)
    (hl : l ∈ s.tokens t) : k.number ≠ l.number := by
  have hnodup := h.nodup t
  rw [held, List.map_append, List.nodup_append] at hnodup
  exact hnodup.2.2 _ (List.mem_map_of_mem hk) _ (List.mem_map_of_mem hl)

/-- The blocks that a thread stays in have other tokens than the block that it leaves. -/
theorem Orderly.number_ne_of_mem_eraseIdx (h : s.Orderly) {index : Nat} {l : ResetToken}
    (hk : (s.blocks t)[index]? = some k) (hl : l ∈ (s.blocks t).eraseIdx index) :
    l.number ≠ k.number := by
  obtain ⟨hindex, hk⟩ := List.getElem?_eq_some_iff.mp hk
  have hnodup := h.nodup t
  rw [held, List.map_append, List.nodup_append] at hnodup
  have hperm := (List.getElem_cons_eraseIdx_perm hindex).map ResetToken.number
  have hhead := (List.nodup_cons.mp (hperm.nodup_iff.mpr hnodup.1)).1
  rw [hk] at hhead
  intro heq
  exact hhead (heq ▸ List.mem_map_of_mem hl)

/-! ## Acts -/

/-- To leave a block that the thread is not in does nothing. -/
theorem act_leave_of_none {index : Nat} (hk : (s.blocks t)[index]? = none) :
    s.act t (.leave index) = { s with desk := s.desk.leaveContext t } := by
  simp only [act, hk]

/-- To give back a token that the thread did not keep does nothing. -/
theorem act_reset_of_none {index : Nat} (hk : (s.tokens t)[index]? = none) :
    s.act t (.reset index) = { s with desk := s.desk.leaveContext t } := by
  simp only [act, hk]

/-- A thread leaves a block: the earlier registration is back, and the block's token is used. -/
theorem Orderly.act_leave (h : s.Orderly) {index : Nat} (hk : (s.blocks t)[index]? = some k) :
    s.act t (.leave index) =
      { desk := { s.desk.leaveContext t with
          isUsed := fun n => decide (n = k.number) || s.desk.isUsed n
          registered := fun c => if c = t then k.earlier else s.desk.registered c }
        blocks := Function.update s.blocks t ((s.blocks t).eraseIdx index)
        tokens := s.tokens } := by
  have hmem : k ∈ s.blocks t := List.mem_of_getElem? hk
  have hcontext : k.context = t := h.own t k (List.mem_append_left _ hmem)
  have hreset := Desk.resetSession_of_unused (d := s.desk.leaveContext t) (h.unspent t k hmem) hcontext
  simp only [act, hk, hreset]
  rfl

/-- A thread gives back a token that was not used: the earlier registration is back. -/
theorem Orderly.act_reset (h : s.Orderly) {index : Nat} (hk : (s.tokens t)[index]? = some k)
    (hunused : s.desk.isUsed k.number = false) :
    s.act t (.reset index) =
      { s with desk := { s.desk.leaveContext t with
          isUsed := fun n => decide (n = k.number) || s.desk.isUsed n
          registered := fun c => if c = t then k.earlier else s.desk.registered c } } := by
  have hmem : k ∈ s.held t := List.mem_append_right _ (List.mem_of_getElem? hk)
  have hreset := Desk.resetSession_of_unused (d := s.desk.leaveContext t) hunused (h.own t k hmem)
  simp only [act, hk, hreset]
  rfl

/-- To give back a token that was used does nothing. -/
theorem act_reset_of_used {index : Nat} (hk : (s.tokens t)[index]? = some k)
    (hused : s.desk.isUsed k.number = true) :
    s.act t (.reset index) = { s with desk := s.desk.leaveContext t } := by
  have hreset := Desk.resetSession_of_used (d := s.desk.leaveContext t) hused
  simp only [act, hk, hreset]

/-- Threads stay orderly, whatever one of them does. -/
theorem Orderly.act (h : s.Orderly) (t : Nat) (a : Act) : (s.act t a).Orderly := by
  cases a with
  | enter session =>
    refine h.hold (t := t) (k := ⟨s.desk.freshToken, t, s.current t⟩) ?_ (fun u hu => ?_)
      (fun u l hl => ?_) rfl rfl rfl rfl
    · show (Function.update s.blocks t (_ :: s.blocks t) t ++ s.tokens t).Perm _
      rw [Function.update_self]
      exact List.Perm.refl _
    · show Function.update s.blocks t _ u ++ s.tokens u = _
      rw [Function.update_of_ne hu, held]
    · have hl : l ∈ Function.update s.blocks t (_ :: s.blocks t) u := hl
      by_cases hu : u = t
      · subst hu
        rw [Function.update_self] at hl
        exact List.mem_cons.mp hl
      · rw [Function.update_of_ne hu] at hl
        exact .inr hl
  | set session =>
    refine h.hold (t := t) (k := ⟨s.desk.freshToken, t, s.current t⟩) ?_ (fun u hu => ?_)
      (fun u l hl => .inr hl) rfl rfl rfl rfl
    · show (s.blocks t ++ Function.update s.tokens t (_ :: s.tokens t) t).Perm _
      rw [Function.update_self]
      exact List.perm_middle
    · show s.blocks u ++ Function.update s.tokens t _ u = _
      rw [Function.update_of_ne hu, held]
  | leave index =>
    cases hk : (s.blocks t)[index]? with
    | none =>
      rw [act_leave_of_none hk]
      exact h.of_same rfl rfl rfl rfl
    | some k =>
      rw [h.act_leave hk]
      have hmem : k ∈ s.blocks t := List.mem_of_getElem? hk
      refine h.spend (List.mem_append_left _ hmem) (fun u => ?_) (fun u l hl => ?_) rfl fun n => rfl
      · show (Function.update s.blocks t _ u ++ s.tokens u).Sublist _
        by_cases hu : u = t
        · subst hu
          rw [Function.update_self]
          exact (List.eraseIdx_sublist _ _).append_right _
        · rw [Function.update_of_ne hu]
          exact List.Sublist.refl _
      · have hl : l ∈ Function.update s.blocks t ((s.blocks t).eraseIdx index) u := hl
        by_cases hu : u = t
        · subst hu
          rw [Function.update_self] at hl
          exact ⟨(List.eraseIdx_sublist _ _).subset hl, h.number_ne_of_mem_eraseIdx hk hl⟩
        · rw [Function.update_of_ne hu] at hl
          exact ⟨hl, h.number_ne hu (List.mem_append_left _ hmem) (List.mem_append_left _ hl)⟩
  | reset index =>
    cases hk : (s.tokens t)[index]? with
    | none =>
      rw [act_reset_of_none hk]
      exact h.of_same rfl rfl rfl rfl
    | some k =>
      have hmem : k ∈ s.tokens t := List.mem_of_getElem? hk
      cases hused : s.desk.isUsed k.number with
      | true =>
        rw [act_reset_of_used hk hused]
        exact h.of_same rfl rfl rfl rfl
      | false =>
        rw [h.act_reset hk hused]
        refine h.spend (List.mem_append_right _ hmem) (fun u => List.Sublist.refl _)
          (fun u l hl => ⟨hl, ?_⟩) rfl fun n => rfl
        by_cases hu : u = t
        · subst hu
          exact h.block_ne_token hl hmem
        · exact h.number_ne hu (List.mem_append_right _ hmem) (List.mem_append_left _ hl)
  | warn line file x =>
    have hwarn := Desk.reported_warn (s.desk.leaveContext t) line file x
    exact h.of_same rfl rfl hwarn.freshToken hwarn.isUsed
  | warnMessage x =>
    have hwarn := Desk.reported_warnMessage (s.desk.leaveContext t) x
    exact h.of_same rfl rfl hwarn.freshToken hwarn.isUsed

end Orderly

/-! ## Views -/

/-- What a thread has to itself. -/
@[ext]
structure View where
  registered : Option Nat
  /-- What the tokens of its blocks bring back. -/
  blocks : List (Option Nat)
  /-- What the tokens it kept bring back, and whether they were used. -/
  tokens : List (Option Nat × Bool)

/-- An act of the thread as its view tells it. -/
def View.act (v : View) : Act → View
  | .enter session => { v with registered := some session, blocks := v.registered :: v.blocks }
  | .leave index =>
    match v.blocks[index]? with
    | none => v
    | some earlier => { v with registered := earlier, blocks := v.blocks.eraseIdx index }
  | .set session => { v with registered := session, tokens := (v.registered, false) :: v.tokens }
  | .reset index =>
    match v.tokens[index]? with
    | some (earlier, false) =>
      { v with registered := earlier, tokens := v.tokens.set index (earlier, true) }
    | _ => v
  | .warn _ _ _ | .warnMessage _ => v

/-- The view of a thread. -/
def view (s : Threads) (t : Nat) : View where
  registered := s.current t
  blocks := (s.blocks t).map ResetToken.earlier
  tokens := (s.tokens t).map fun k => (k.earlier, s.desk.isUsed k.number)

section View

/-- Tokens after the one with a number was used, if that is none of them. -/
theorem map_isUsed_of_ne {tokens : List ResetToken} {n : Nat} (isUsed : Nat → Bool)
    (hne : ∀ l ∈ tokens, l.number ≠ n) :
    tokens.map (fun l => (l.earlier, decide (l.number = n) || isUsed l.number)) =
      tokens.map fun l => (l.earlier, isUsed l.number) := by
  refine List.map_congr_left fun l hl => Prod.ext rfl ?_
  show (decide (l.number = n) || isUsed l.number) = isUsed l.number
  rw [decide_eq_false (hne l hl), Bool.false_or]

/-- Tokens after one of them was used: no other is used with it. -/
theorem map_isUsed_eq_set {tokens : List ResetToken} {index : Nat} {k : ResetToken}
    (isUsed : Nat → Bool) (hnodup : (tokens.map ResetToken.number).Nodup)
    (hk : tokens[index]? = some k) :
    tokens.map (fun l => (l.earlier, decide (l.number = k.number) || isUsed l.number)) =
      (tokens.map fun l => (l.earlier, isUsed l.number)).set index (k.earlier, true) := by
  induction tokens generalizing index with
  | nil => exact nomatch hk
  | cons l rest ih =>
    obtain ⟨hhead, hrest⟩ := List.nodup_cons.mp hnodup
    cases index with
    | zero =>
      obtain rfl : l = k := Option.some.inj hk
      have hne : ∀ m ∈ rest, m.number ≠ l.number := fun m hm heq =>
        hhead (heq ▸ List.mem_map_of_mem hm)
      rw [List.map_cons, List.map_cons, List.set_cons_zero, map_isUsed_of_ne isUsed hne,
        decide_eq_true rfl, Bool.true_or]
    | succ index =>
      have hk : rest[index]? = some k := hk
      have hne : l.number ≠ k.number := fun heq =>
        hhead (heq ▸ List.mem_map_of_mem (List.mem_of_getElem? hk))
      rw [List.map_cons, List.map_cons, List.set_cons_succ, ih hrest hk, decide_eq_false hne,
        Bool.false_or]

variable {s : Threads} {t : Nat}

theorem view_report {d : Desk} {change : Session → Session} (u : Nat)
    (h : Desk.Reported change (s.desk.leaveContext t) d) :
    { s with desk := d }.view u = s.view u := by
  refine View.ext ?_ rfl ?_
  · exact congrFun h.registered u
  · show (s.tokens u).map (fun k => (k.earlier, d.isUsed k.number)) = _
    rw [h.isUsed]
    rfl

/-- An act changes the view of its own thread as the view tells. -/
theorem view_act_self (h : s.Orderly) (t : Nat) (a : Act) :
    (s.act t a).view t = (s.view t).act a := by
  cases a with
  | enter session =>
    refine View.ext (if_pos rfl) ?_ ?_
    · show (Function.update s.blocks t (_ :: s.blocks t) t).map _ = _
      rw [Function.update_self]
      rfl
    · rfl
  | set session =>
    refine View.ext (if_pos rfl) rfl ?_
    show (Function.update s.tokens t (_ :: s.tokens t) t).map _ = _
    rw [Function.update_self]
    refine congrArg₂ List.cons (Prod.ext rfl ?_) rfl
    exact h.unused _ (Nat.le_refl _)
  | leave index =>
    have hview : (s.view t).blocks[index]? = ((s.blocks t)[index]?).map ResetToken.earlier :=
      List.getElem?_map
    cases hk : (s.blocks t)[index]? with
    | none =>
      rw [hk, Option.map_none] at hview
      rw [act_leave_of_none hk]
      simp only [View.act, hview]
      rfl
    | some k =>
      rw [hk, Option.map_some] at hview
      rw [h.act_leave hk]
      simp only [View.act, hview]
      refine View.ext (if_pos rfl) ?_ ?_
      · show (Function.update s.blocks t ((s.blocks t).eraseIdx index) t).map _ = _
        rw [Function.update_self]
        exact (List.eraseIdx_map _ _ _).symm
      · exact map_isUsed_of_ne s.desk.isUsed fun l hl =>
          (h.block_ne_token (List.mem_of_getElem? hk) hl).symm
  | reset index =>
    have hview : (s.view t).tokens[index]? =
        ((s.tokens t)[index]?).map fun k => (k.earlier, s.desk.isUsed k.number) :=
      List.getElem?_map
    cases hk : (s.tokens t)[index]? with
    | none =>
      rw [hk, Option.map_none] at hview
      rw [act_reset_of_none hk]
      simp only [View.act, hview]
      rfl
    | some k =>
      rw [hk, Option.map_some] at hview
      cases hused : s.desk.isUsed k.number with
      | true =>
        rw [hused] at hview
        rw [act_reset_of_used hk hused]
        simp only [View.act, hview]
        rfl
      | false =>
        rw [hused] at hview
        rw [h.act_reset hk hused]
        simp only [View.act, hview]
        have hnodup := h.nodup t
        rw [held, List.map_append, List.nodup_append] at hnodup
        exact View.ext (if_pos rfl) rfl (map_isUsed_eq_set s.desk.isUsed hnodup.2.1 hk)
  | warn line file x => exact view_report t (Desk.reported_warn _ line file x)
  | warnMessage x => exact view_report t (Desk.reported_warnMessage _ x)

/-- An act does not change the view of another thread. -/
theorem view_act_other (h : s.Orderly) {u : Nat} (hu : u ≠ t) (a : Act) :
    (s.act t a).view u = s.view u := by
  cases a with
  | enter session =>
    refine View.ext (if_neg hu) ?_ rfl
    show (Function.update s.blocks t _ u).map _ = _
    rw [Function.update_of_ne hu]
    rfl
  | set session =>
    refine View.ext (if_neg hu) rfl ?_
    show (Function.update s.tokens t _ u).map _ = _
    rw [Function.update_of_ne hu]
    rfl
  | leave index =>
    cases hk : (s.blocks t)[index]? with
    | none =>
      rw [act_leave_of_none hk]
      rfl
    | some k =>
      rw [h.act_leave hk]
      refine View.ext (if_neg hu) ?_ ?_
      · show (Function.update s.blocks t _ u).map _ = _
        rw [Function.update_of_ne hu]
        rfl
      · have hmem : k ∈ s.held t := List.mem_append_left _ (List.mem_of_getElem? hk)
        exact map_isUsed_of_ne s.desk.isUsed fun l hl =>
          h.number_ne hu hmem (List.mem_append_right _ hl)
  | reset index =>
    cases hk : (s.tokens t)[index]? with
    | none =>
      rw [act_reset_of_none hk]
      rfl
    | some k =>
      cases hused : s.desk.isUsed k.number with
      | true =>
        rw [act_reset_of_used hk hused]
        rfl
      | false =>
        rw [h.act_reset hk hused]
        have hmem : k ∈ s.held t := List.mem_append_right _ (List.mem_of_getElem? hk)
        exact View.ext (if_neg hu) rfl (map_isUsed_of_ne s.desk.isUsed fun l hl =>
          h.number_ne hu hmem (List.mem_append_right _ hl))
  | warn line file x => exact view_report u (Desk.reported_warn _ line file x)
  | warnMessage x => exact view_report u (Desk.reported_warnMessage _ x)

end View

/-! ## Sessions -/

section Sessions

variable {s : Threads} {t n : Nat}

/-- An act reaches the session that is registered in its thread, and no other. -/
theorem sessions_act (s : Threads) (t : Nat) (a : Act) (n : Nat) :
    (s.act t a).desk.sessions n =
      if s.current t = some n then a.change s.desk.directory (s.desk.sessions n)
      else s.desk.sessions n := by
  cases a with
  | enter session => exact (ite_self _).symm
  | set session => exact (ite_self _).symm
  | leave index =>
    refine Eq.trans ?_ (ite_self _).symm
    rw [act]
    split
    · rfl
    · exact congrFun (Desk.resetSession_sessions _ _) n
  | reset index =>
    refine Eq.trans ?_ (ite_self _).symm
    rw [act]
    split
    · rfl
    · exact congrFun (Desk.resetSession_sessions _ _) n
  | warn line file x => exact (Desk.reported_warn (s.desk.leaveContext t) line file x).sessions n
  | warnMessage x => exact (Desk.reported_warnMessage (s.desk.leaveContext t) x).sessions n

theorem directory_act (s : Threads) (t : Nat) (a : Act) :
    (s.act t a).desk.directory = s.desk.directory := by
  cases a with
  | enter session => rfl
  | set session => rfl
  | leave index =>
    rw [act]
    split
    · rfl
    · exact Desk.resetSession_directory _ _
  | reset index =>
    rw [act]
    split
    · rfl
    · exact Desk.resetSession_directory _ _
  | warn line file x => exact (Desk.reported_warn (s.desk.leaveContext t) line file x).directory
  | warnMessage x => exact (Desk.reported_warnMessage (s.desk.leaveContext t) x).directory

/-- A view in which a session is not registered and cannot come back. -/
structure View.Avoids (n : Nat) (v : View) : Prop where
  registered : v.registered ≠ some n
  blocks : some n ∉ v.blocks
  tokens : ∀ used, (some n, used) ∉ v.tokens

/-- A thread that does not register a session does not get it registered. -/
theorem View.Avoids.act {v : View} (h : v.Avoids n) {a : Act} (ha : a.session? ≠ some n) :
    (v.act a).Avoids n := by
  cases a with
  | enter session =>
    refine { h with registered := ha, blocks := fun hmem => ?_ }
    rcases List.mem_cons.mp hmem with heq | hmem
    · exact h.registered heq.symm
    · exact h.blocks hmem
  | set session =>
    refine { h with registered := ha, tokens := fun used hmem => ?_ }
    rcases List.mem_cons.mp hmem with heq | hmem
    · exact h.registered (Prod.mk.inj heq).1.symm
    · exact h.tokens used hmem
  | leave index =>
    rw [View.act]
    split
    · exact h
    · rename_i earlier hearlier
      have hmem : earlier ∈ v.blocks := List.mem_of_getElem? hearlier
      exact { h with
        registered := fun heq => h.blocks (heq ▸ hmem)
        blocks := fun hmem => h.blocks ((List.eraseIdx_sublist _ _).subset hmem) }
  | reset index =>
    rw [View.act]
    split
    · rename_i earlier hearlier
      have hmem : (earlier, false) ∈ v.tokens := List.mem_of_getElem? hearlier
      refine { h with
        registered := fun heq => h.tokens false (heq ▸ hmem)
        tokens := fun used hmem' => ?_ }
      rcases List.mem_or_eq_of_mem_set hmem' with hmem' | heq
      · exact h.tokens used hmem'
      · exact h.tokens false ((Prod.mk.inj heq).1 ▸ hmem)
    · exact h
  | warn line file x => exact h
  | warnMessage x => exact h

end Sessions

/-! ## Runs -/

/-- The acts of a thread. -/
def actsOf (t : Nat) (acts : List (Nat × Act)) : List Act :=
  (acts.filter fun o => o.1 == t).map Prod.snd

/-- A session after acts of a thread, of which those reach it that find it registered. -/
def View.sessionAfter (directory : Option Text) (n : Nat) : View → List Act → Session → Session
  | _, [], session => session
  | v, a :: rest, session =>
    (v.act a).sessionAfter directory n rest
      (if v.registered = some n then a.change directory session else session)

section Runs

variable {s : Threads} {t n : Nat}

theorem actsOf_cons_self (t : Nat) (a : Act) (acts : List (Nat × Act)) :
    actsOf t ((t, a) :: acts) = a :: actsOf t acts := by
  simp [actsOf]

theorem actsOf_cons_other {u : Nat} (hu : u ≠ t) (a : Act) (acts : List (Nat × Act)) :
    actsOf t ((u, a) :: acts) = actsOf t acts := by
  simp [actsOf, hu]

theorem actsOf_filter (t : Nat) (acts : List (Nat × Act)) :
    actsOf t (acts.filter fun o => o.1 == t) = actsOf t acts := by
  simp [actsOf]

/-- A thread's view after a run is what its own acts make of it. -/
theorem view_run (h : s.Orderly) (t : Nat) (acts : List (Nat × Act)) :
    (s.run acts).view t = (actsOf t acts).foldl View.act (s.view t) := by
  induction acts generalizing s with
  | nil => rfl
  | cons o acts ih =>
    obtain ⟨u, a⟩ := o
    show ((s.act u a).run acts).view t = _
    rw [ih (h.act u a)]
    by_cases hu : u = t
    · rw [hu, actsOf_cons_self, List.foldl_cons, view_act_self h]
    · rw [actsOf_cons_other hu, view_act_other h (Ne.symm hu)]

/-- A session that no other thread registers is what the acts of the one thread make of it. -/
theorem sessions_run (h : s.Orderly) {acts : List (Nat × Act)}
    (hothers : ∀ u, u ≠ t → (s.view u).Avoids n)
    (hacts : ∀ o ∈ acts, o.2.session? = some n → o.1 = t) :
    (s.run acts).desk.sessions n =
      (s.view t).sessionAfter s.desk.directory n (actsOf t acts) (s.desk.sessions n) := by
  induction acts generalizing s with
  | nil => rfl
  | cons o acts ih =>
    obtain ⟨u, a⟩ := o
    have hfirst : a.session? = some n → u = t := hacts (u, a) List.mem_cons_self
    have hrest : ∀ o ∈ acts, o.2.session? = some n → o.1 = t := fun o ho =>
      hacts o (List.mem_cons_of_mem _ ho)
    have hothers' : ∀ v, v ≠ t → ((s.act u a).view v).Avoids n := by
      intro v hv
      by_cases hvu : v = u
      · subst hvu
        rw [view_act_self h]
        exact (hothers v hv).act fun heq => hv (hfirst heq)
      · rw [view_act_other h hvu]
        exact hothers v hv
    show ((s.act u a).run acts).desk.sessions n = _
    rw [ih (h.act u a) hothers' hrest, directory_act, sessions_act]
    by_cases hu : u = t
    · subst hu
      rw [actsOf_cons_self, view_act_self h]
      rfl
    · have hunregistered : s.current u ≠ some n := (hothers u hu).registered
      rw [actsOf_cons_other hu, view_act_other h (Ne.symm hu), if_neg hunregistered]

/-- A session that one thread alone registers is, after a run from the start, what the thread's acts
    make of it. -/
theorem sessions_run_opening {directory : Option Text} {console : Console} {sessions : Nat → Session}
    {acts : List (Nat × Act)} (hacts : ∀ o ∈ acts, o.2.session? = some n → o.1 = t) :
    ((opening directory console sessions).run acts).desk.sessions n =
      ((opening directory console sessions).view t).sessionAfter directory n (actsOf t acts)
        (sessions n) :=
  sessions_run (orderly_opening directory console sessions)
    (fun _ _ => ⟨nofun, List.not_mem_nil, fun _ => List.not_mem_nil⟩) hacts

end Runs

/-- What is registered in a thread after any run is what is registered there after the thread's own
    acts alone, and none at the start. A session that the thread alone registers is after the run as
    it is after the thread's own acts alone. -/
theorem run_isolated (directory : Option Text) (console : Console) (sessions : Nat → Session)
    (acts : List (Nat × Act)) (t : Nat) :
    let start := opening directory console sessions
    let alone := start.run (acts.filter fun o => o.1 == t)
    start.current t = none ∧
      (start.run acts).current t = alone.current t ∧
      ∀ n, (∀ o ∈ acts, o.2.session? = some n → o.1 = t) →
        (start.run acts).desk.sessions n = alone.desk.sessions n := by
  intro start alone
  have horderly : start.Orderly := orderly_opening directory console sessions
  refine ⟨rfl, ?_, fun n hacts => ?_⟩
  · have hview : (start.run acts).view t = alone.view t := by
      rw [view_run horderly, view_run horderly, actsOf_filter]
    exact congrArg View.registered hview
  · have halone : ∀ o ∈ acts.filter fun o => o.1 == t, o.2.session? = some n → o.1 = t :=
      fun o ho _ => eq_of_beq (List.mem_filter.mp ho).2
    rw [sessions_run_opening hacts, sessions_run_opening halone, actsOf_filter]

/-- Two threads that report in turns, each to a session of its own. -/
def interleaved : List (Nat × Act) :=
  [(1, .enter 0), (2, .enter 1), (1, .warn (.int 3) (.string (text "a.ex")) (.string (text "odd"))),
    (2, .warnMessage (text "slow")), (2, .leave 0), (1, .warnMessage (text "late")), (1, .leave 0)]

theorem run_isolated_interleaved :
    (∀ o ∈ interleaved, o.2.session? = some 0 → o.1 = 1) ∧
      ((opening none .initial fun _ => .mailbox (.initial .none)).run interleaved).desk.sessions 0 =
        .mailbox ⟨.none, [⟨.string (text "a.ex"), .int 3, .string (text "odd")⟩], 2⟩ := by
  have honly : ∀ o ∈ interleaved, o.2.session? = some 0 → o.1 = 1 := by decide
  have hsame := (run_isolated none .initial (fun _ => .mailbox (.initial .none)) interleaved 1).2.2
    0 honly
  have hwarned := Session.warned_of_lt (show coerceLine (.int 3) = .ok 3 from rfl)
    (by decide +kernel) none (text "a.ex") (text "odd") (.mailbox (.initial .none))
  have hview : (opening none .initial fun _ => .mailbox (.initial .none)).view 1 =
      ⟨none, [], []⟩ := rfl
  have hacts : actsOf 1 interleaved = [.enter 0,
      .warn (.int 3) (.string (text "a.ex")) (.string (text "odd")), .warnMessage (text "late"),
      .leave 0] := rfl
  refine ⟨honly, hsame.trans ?_⟩
  rw [sessions_run_opening (t := 1) (by decide), actsOf_filter, hview, hacts]
  simp only [View.sessionAfter, View.act, Act.change, hwarned, reduceCtorEq, if_true, if_false]
  rfl

end Threads

end Faultline

import Mathlib.Data.List.DropRight
import Mathlib.Data.List.Pairwise
import ChordDrill.Keyboard
import ChordDrill.Proofs.Motion.Alternation

/-!
# ChordDrill.Proofs.Keyboard.History

What the keyboard shows, read off its whole history.

* `Keyboard.sinceReset` — what has happened since the last reset.
* `Keyboard.motionsOf`  — the motions among it.
* `Keyboard.hintsOf`    — the keys of the last act on hints among it.
* `Motion.HeldSince`    — the motion with which the present hold of a key began.

The hints and all the rest are made by different acts (`actAll_eq`), so the rest is told from the
motions alone. A key is listed while its last motion is a press, and the list is in the order in
which the holds began (`pairwise_pressed`): a press of a listed key begins no hold, and a release
ends one.
-/

namespace ChordDrill

namespace Motion

variable {ms before after : List Motion} {m : Motion} {k k' : Key} {i j : Nat}

/-- The present hold of a key began with the motion number `i`: with a press of the key, which was
up, and which was not let go since. -/
def HeldSince (ms : List Motion) (k : Key) (i : Nat) : Prop :=
  ∃ before after, ms = before ++ .press k :: after ∧ before.length = i ∧ ¬ Left before k ∧
    .release k ∉ after

/-- The present hold of the one key began before that of the other. -/
def BeganBefore (ms : List Motion) (j k : Key) : Prop :=
  ∃ a b, HeldSince ms j a ∧ HeldSince ms k b ∧ a < b

theorem left_press (ms : List Motion) (k : Key) : Left (ms ++ [.press k]) k := by
  have hlast : ofKey k (ms ++ [.press k]) = ofKey k ms ++ [.press k] :=
    ofKey_snoc_self ms (.press k)
  rw [Left, hlast, List.getLast?_concat]

theorem not_left_release (ms : List Motion) (k : Key) : ¬ Left (ms ++ [.release k]) k := by
  have hlast : ofKey k (ms ++ [.release k]) = ofKey k ms ++ [.release k] :=
    ofKey_snoc_self ms (.release k)
  rw [Left, hlast, List.getLast?_concat]
  simp

theorem left_snoc_of_ne (h : m.key ≠ k) : Left (ms ++ [m]) k ↔ Left ms k := by
  rw [Left, ofKey_snoc_of_ne h, Left]

theorem Left.snoc (h : Left ms k) (hm : m ≠ .release k) : Left (ms ++ [m]) k := by
  by_cases hk : m.key = k
  · subst hk
    cases m with
    | press k => exact left_press ms k
    | release k => exact absurd rfl hm
  · exact (left_snoc_of_ne hk).mpr h

/-- A key that is pressed and not released is left down. -/
theorem left_of_press (h : .release k ∉ after) : Left (before ++ .press k :: after) k := by
  induction after using List.reverseRecOn with
  | nil => exact left_press before k
  | append_singleton after m ih =>
    simp only [List.mem_append, List.mem_singleton, not_or] at h
    rw [← List.cons_append, ← List.append_assoc]
    exact (ih h.1).snoc (Ne.symm h.2)

namespace HeldSince

theorem lt (h : HeldSince ms k i) : i < ms.length := by
  obtain ⟨before, after, rfl, rfl, _⟩ := h
  simp

theorem left (h : HeldSince ms k i) : Left ms k := by
  obtain ⟨before, after, rfl, _, _, hafter⟩ := h
  exact left_of_press hafter

theorem snoc (h : HeldSince ms k i) (hm : m ≠ .release k) : HeldSince (ms ++ [m]) k i := by
  obtain ⟨before, after, rfl, hlen, hbefore, hafter⟩ := h
  refine ⟨before, after ++ [m], by simp, hlen, hbefore, ?_⟩
  simp only [List.mem_append, List.mem_singleton, not_or]
  exact ⟨hafter, Ne.symm hm⟩

theorem of_press (h : ¬ Left ms k) : HeldSince (ms ++ [.press k]) k ms.length :=
  ⟨ms, [], rfl, rfl, h, List.not_mem_nil⟩

/-- A hold began once: at a later press of the key, not released in between, the key was down. -/
theorem not_lt (h : HeldSince ms k i) (h' : HeldSince ms k j) : ¬ i < j := by
  obtain ⟨before, after, rfl, rfl, _, hafter⟩ := h
  obtain ⟨before', after', hms, rfl, hbefore', _⟩ := h'
  intro hlt
  rcases List.append_eq_append_iff.mp hms with ⟨between, hb, ha⟩ | ⟨between, hb, _⟩
  · cases between with
    | nil =>
      rw [hb, List.append_nil] at hlt
      exact Nat.lt_irrefl _ hlt
    | cons m between =>
      simp only [List.cons_append, List.cons.injEq] at ha
      obtain ⟨rfl, rfl⟩ := ha
      rw [hb] at hbefore'
      exact hbefore' (left_of_press fun hr => hafter (List.mem_append_left _ hr))
  · rw [hb, List.length_append] at hlt
    omega

theorem unique (h : HeldSince ms k i) (h' : HeldSince ms k j) : i = j :=
  Nat.le_antisymm (Nat.not_lt.mp (h'.not_lt h)) (Nat.not_lt.mp (h.not_lt h'))

end HeldSince

theorem exists_heldSince (h : Left ms k) : ∃ i, HeldSince ms k i := by
  induction ms using List.reverseRecOn with
  | nil => exact absurd h (not_left_nil k)
  | append_singleton ms m ih =>
    by_cases hms : Left ms k
    · obtain ⟨i, hi⟩ := ih hms
      refine ⟨i, hi.snoc ?_⟩
      rintro rfl
      exact not_left_release ms k h
    · by_cases hk : m.key = k
      · subst hk
        cases m with
        | press k => exact ⟨ms.length, .of_press hms⟩
        | release k => exact absurd h (not_left_release ms k)
      · exact absurd ((left_snoc_of_ne hk).mp h) hms

theorem BeganBefore.snoc (h : BeganBefore ms k k') (hk : m ≠ .release k) (hk' : m ≠ .release k') :
    BeganBefore (ms ++ [m]) k k' := by
  obtain ⟨a, b, ha, hb, hlt⟩ := h
  exact ⟨a, b, ha.snoc hk, hb.snoc hk', hlt⟩

/-- A key that goes down has begun its hold behind all that were down. -/
theorem BeganBefore.of_press (h : Left ms k) (h' : ¬ Left ms k') :
    BeganBefore (ms ++ [.press k']) k k' := by
  obtain ⟨a, ha⟩ := exists_heldSince h
  exact ⟨a, ms.length, ha.snoc (by simp), .of_press h', ha.lt⟩

theorem left_iff_existsUnique_heldSince : Left ms k ↔ ∃! i, HeldSince ms k i := by
  constructor
  · intro h
    obtain ⟨i, hi⟩ := exists_heldSince h
    exact ⟨i, hi, fun j hj => hj.unique hi⟩
  · rintro ⟨i, hi, _⟩
    exact hi.left

end Motion

namespace Keyboard

open Motion

variable {s : Keyboard} {ms : List Motion} {k : Key}

/-! ## Motions -/

theorem mem_pressed_iff_left : k ∈ (({} : Keyboard).observeAll ms).pressed ↔ Left ms k := by
  rw [mem_pressed_observeAll (H := ∅) (by simp), left_iff_mem_downAfter]

theorem pressed_release_press (s : Keyboard) (k : Key) :
    ((s.observe (.release k)).observe (.press k)).pressed = s.pressed.filter (· ≠ k) ++ [k] := by
  have hk : k ∉ (s.observe (.release k)).pressed := by
    rw [pressed_release, List.mem_filter]
    simp
  rw [pressed_press_of_notMem hk, pressed_release]

theorem nodup_pressed (ms : List Motion) : (({} : Keyboard).observeAll ms).pressed.Nodup := by
  induction ms using List.reverseRecOn with
  | nil => exact List.nodup_nil
  | append_singleton ms m ih =>
    rw [observeAll_snoc]
    cases m with
    | press k =>
      by_cases hk : k ∈ (({} : Keyboard).observeAll ms).pressed
      · rw [pressed_press_of_mem hk]
        exact ih
      · rw [pressed_press_of_notMem hk]
        refine List.nodup_append.mpr ⟨ih, List.nodup_singleton k, ?_⟩
        rintro j hj _ hmem rfl
        exact hk (List.mem_singleton.mp hmem ▸ hj)
    | release k => exact ih.filter _

/-- Keys are listed in the order in which their holds began. By induction on the motions: a press of
a listed key changes nothing, one of another key begins the latest hold of all, and a release leaves
the order of the other keys. -/
theorem pairwise_pressed (ms : List Motion) :
    (({} : Keyboard).observeAll ms).pressed.Pairwise (BeganBefore ms) := by
  induction ms using List.reverseRecOn with
  | nil => exact List.Pairwise.nil
  | append_singleton ms m ih =>
    rw [observeAll_snoc]
    cases m with
    | press k =>
      have hkeep := ih.imp fun h => h.snoc (m := .press k) (by simp) (by simp)
      by_cases hk : k ∈ (({} : Keyboard).observeAll ms).pressed
      · rw [pressed_press_of_mem hk]
        exact hkeep
      · rw [pressed_press_of_notMem hk]
        refine List.pairwise_append.mpr ⟨hkeep, List.pairwise_singleton _ _, ?_⟩
        intro j hj k' hk'
        obtain rfl := List.mem_singleton.mp hk'
        have hup : ¬ Left ms k' := fun h => hk (mem_pressed_iff_left.mpr h)
        exact .of_press (mem_pressed_iff_left.mp hj) hup
    | release k =>
      rw [pressed_release]
      have hkept : ∀ j ∈ (({} : Keyboard).observeAll ms).pressed.filter (· ≠ k),
          Motion.release k ≠ .release j := by
        intro j hj heq
        cases heq
        simp at hj
      exact (ih.filter _).imp_of_mem fun hj hj' h => h.snoc (hkept _ hj) (hkept _ hj')

theorem pressCount_observe (s : Keyboard) (m : Motion) (k : Key) :
    (s.observe m).pressCount k = s.pressCount k + [m].count (.press k) := by
  cases m with
  | press j =>
    have hbump := Tally.count_bump s.presses j k
    by_cases hk : k = j
    · subst hk
      rw [if_pos rfl] at hbump
      simpa [pressCount, observe] using hbump
    · rw [if_neg hk] at hbump
      simpa [pressCount, observe, List.count_singleton, Ne.symm hk] using hbump
  | release j => simp [pressCount, observe]

theorem pressCount_observeAll (ms : List Motion) (k : Key) :
    (({} : Keyboard).observeAll ms).pressCount k = ms.count (.press k) := by
  induction ms using List.reverseRecOn with
  | nil => rfl
  | append_singleton ms m ih => rw [observeAll_snoc, pressCount_observe, ih, List.count_append]

theorem motions_observeAll (ms : List Motion) :
    (({} : Keyboard).observeAll ms).motions = ms.length := by
  induction ms using List.reverseRecOn with
  | nil => rfl
  | append_singleton ms m ih => rw [observeAll_snoc, motions_observe, ih, List.length_append,
      List.length_singleton]

/-! ## All acts -/

namespace Act

def motion? : Act → Option Motion
  | .motion m => some m
  | .setHints _ | .clearHints | .reset => none

def hints? : Act → Option (List Key)
  | .setHints ks => some ks
  | .clearHints => some []
  | .motion _ | .reset => none

end Act

def sinceReset (acts : List Act) : List Act := acts.rtakeWhile (· ≠ .reset)

def motionsOf (acts : List Act) : List Motion := acts.filterMap Act.motion?

def hintsOf (acts : List Act) : List Key := (acts.filterMap Act.hints?).getLastD []

theorem sinceReset_snoc {a : Act} (h : a ≠ .reset) (acts : List Act) :
    sinceReset (acts ++ [a]) = sinceReset acts ++ [a] :=
  List.rtakeWhile_concat_pos _ _ _ (decide_eq_true h)

theorem sinceReset_reset (acts : List Act) : sinceReset (acts ++ [.reset]) = [] :=
  List.rtakeWhile_concat_neg _ _ _ (by simp)

theorem motionsOf_snoc (acts : List Act) (a : Act) :
    motionsOf (acts ++ [a]) = motionsOf acts ++ a.motion?.toList := by
  cases a <;> simp [motionsOf, Act.motion?]

theorem hintsOf_snoc (acts : List Act) (a : Act) :
    hintsOf (acts ++ [a]) = a.hints?.getD (hintsOf acts) := by
  cases a <;> simp [hintsOf, Act.hints?]

theorem observe_with_hinted (s : Keyboard) (ks : List Key) (m : Motion) :
    ({ s with hinted := ks } : Keyboard).observe m = { s.observe m with hinted := ks } := by
  cases m <;> rfl

/-- The state is made of what the motions since the last reset make without any hints, and of the
keys of the last act on hints. -/
theorem actAll_eq (acts : List Act) :
    ({} : Keyboard).actAll acts =
      { ({} : Keyboard).observeAll (motionsOf (sinceReset acts)) with
        hinted := hintsOf (sinceReset acts) } := by
  induction acts using List.reverseRecOn with
  | nil => rfl
  | append_singleton acts a ih =>
    rw [actAll_snoc, ih]
    by_cases ha : a = .reset
    · subst ha
      rw [sinceReset_reset]
      rfl
    · rw [sinceReset_snoc ha, motionsOf_snoc, hintsOf_snoc]
      cases a with
      | motion m =>
        rw [Act.motion?, Option.toList_some, observeAll_snoc]
        exact observe_with_hinted _ _ m
      | setHints ks =>
        rw [Act.motion?, Option.toList_none, List.append_nil]
        rfl
      | clearHints =>
        rw [Act.motion?, Option.toList_none, List.append_nil]
        rfl
      | reset => exact absurd rfl ha

/-- What a state says about the acts since the last reset. -/
structure Recounts (s : Keyboard) (acts : List Act) : Prop where
  nodup : s.pressed.Nodup
  /-- The keys listed are those whose last motion is a press. -/
  mem_pressed (k : Key) : k ∈ s.pressed ↔ Left (motionsOf acts) k
  /-- Their present holds began at one motion each. -/
  held (k : Key) : k ∈ s.pressed ↔ ∃! i, HeldSince (motionsOf acts) k i
  /-- They are listed in the order of those motions. -/
  ordered : s.pressed.Pairwise (BeganBefore (motionsOf acts))
  /-- One more press of a key listed moves no key. -/
  press_again : ∀ k ∈ s.pressed, (s.observe (.press k)).pressed = s.pressed
  /-- A release and a new press move a key to the end. -/
  press_anew (k : Key) :
    ((s.observe (.release k)).observe (.press k)).pressed = s.pressed.filter (· ≠ k) ++ [k]
  pressCount (k : Key) : s.pressCount k = (motionsOf acts).count (.press k)
  motions : s.motions = (motionsOf acts).length
  isHinted (k : Key) : s.isHinted k ↔ k ∈ hintsOf acts
  /-- Only acts on hints make the hints, and only motions make the rest. -/
  apart : s = { ({} : Keyboard).observeAll (motionsOf acts) with hinted := hintsOf acts }

theorem recounts_since_reset (acts : List Act) :
    Recounts (({} : Keyboard).actAll acts) (sinceReset acts) := by
  have hapart := actAll_eq acts
  rw [hapart]
  exact {
    nodup := nodup_pressed _
    mem_pressed := fun k => mem_pressed_iff_left
    held := fun k => mem_pressed_iff_left.trans left_iff_existsUnique_heldSince
    ordered := pairwise_pressed _
    press_again := fun k hk => pressed_press_of_mem hk
    press_anew := fun k => pressed_release_press _ k
    pressCount := pressCount_observeAll _
    motions := motions_observeAll _
    isHinted := fun k => decide_eq_true_iff
    apart := rfl }

/-- Control is pressed twice, let go and pressed anew behind `f`; what came before the reset does
not count. -/
theorem ctrl_listed_behind_f :
    let acts : List Act := [.motion (.press .letterQ), .setHints [.letterQ], .reset,
      .motion (.press .ctrl), .motion (.press .letterF), .setHints [.ctrl, .letterF],
      .motion (.press .ctrl), .motion (.release .ctrl), .motion (.press .ctrl)]
    let s := ({} : Keyboard).actAll acts
    s.pressed = [.letterF, .ctrl] ∧ s.pressCount .ctrl = 3 ∧ s.motions = 5 ∧
      (s.observe (.press .letterF)).pressed = s.pressed ∧ Recounts s (sinceReset acts) := by
  intro acts s
  have hs : Recounts s (sinceReset acts) := recounts_since_reset acts
  exact ⟨by decide, by decide, by decide, hs.press_again .letterF (by decide), hs⟩

end Keyboard

end ChordDrill

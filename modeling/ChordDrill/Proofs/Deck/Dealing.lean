import ChordDrill.Deck
import ChordDrill.Proofs.Drill.Cancellation
import ChordDrill.Proofs.Random.Endless

/-!
# ChordDrill.Proofs.Deck.Dealing

The shortcuts of a deck, from the catalog to the prompts.

* `Deck.after` — a deck after some draws.
* `Deals`      — the deck has the shortcuts at some positions of the catalog, all different.

Whatever decides a deck deals it (`deals_of_sample?`). Its draws give the shortcuts at the positions
in turn (`draw_after`), and so do the prompts of a drill as far as it gets (`prompted_begins_deck`).
-/

namespace ChordDrill.Drill

/-! ## Prompts -/

theorem prompted_append (es es' : List Event) :
    prompted (es ++ es') = prompted es ++ prompted es' :=
  List.filterMap_append

theorem prompted_events (t : Attempted) (number : Nat) :
    prompted (t.events number) = [t.action] := by
  have hmotions : prompted (motionEvents t.motions) = [] := by
    refine prompted_eq_nil fun e he => ?_
    obtain ⟨m, M, rfl⟩ := mem_motionEvents he
    trivial
  have hrest : prompted (motionEvents t.motions ++ [.verdict t.verdict, .readyForNext]) = [] := by
    rw [prompted_append, hmotions]
    rfl
  exact congrArg (t.action :: ·) hrest

theorem prompted_told (ts : List Attempted) : prompted (told ts) = ts.map (·.action) := by
  induction ts using List.reverseRecOn with
  | nil => rfl
  | append_singleton ts t ih =>
    rw [told_snoc, prompted_append, prompted_events, ih, List.map_append, List.map_singleton]

theorem prompted_begins_deck (deck : List Action) (line : Line) (heard : Bool) (acts : List Act) :
    prompted (drillAfter deck line heard acts).events <+: deck := by
  obtain ⟨ts, hcovers, hprefix⟩ := (standing_drillAfter deck line heard acts).begins
  have hprompted : prompted (completeTrace ts) = deck := by
    rw [completeTrace, prompted_append, prompted_told, hcovers.actions]
    exact List.append_nil deck
  obtain ⟨rest, hrest⟩ := hprefix
  exact ⟨prompted rest, by rw [← prompted_append, hrest, hprompted]⟩

end ChordDrill.Drill

namespace ChordDrill.Deck

open Drill ChordDrill.Random

/-! ## Draws -/

/-- The deck after some draws. -/
def after (d : Deck) : Nat → Deck
  | 0 => d
  | k + 1 => (d.after k).draw.2

variable {d : Deck} {actions : List Action} {size : Nat} {positions : List Nat} {tape : Tape}

theorem draw_eq (d : Deck) :
    d.draw = (d.remaining.head?, { d with remaining := d.remaining.tail }) := by
  obtain ⟨remaining, size⟩ := d
  cases remaining <;> rfl

theorem after_eq (d : Deck) (k : Nat) :
    d.after k = { d with remaining := d.remaining.drop k } := by
  induction k with
  | zero => rfl
  | succ k ih => rw [after, ih, draw_eq, List.tail_drop]

theorem draw_after (d : Deck) (k : Nat) : (d.after k).draw.1 = d.remaining[k]? := by
  rw [after_eq, draw_eq, List.head?_drop]

/-! ## Positions -/

/-- The deck has the shortcuts at some positions, all different and as many as were asked for, or as
there are. -/
structure Deals (actions : List Action) (size : Nat) (positions : List Nat) (d : Deck) : Prop where
  chosen : Chosen actions.length (min size actions.length) positions
  remaining_eq : d.remaining.map some = positions.map (actions[·]?)
  size_eq : d.size = d.remaining.length

theorem Deals.length_eq (h : Deals actions size positions d) :
    d.remaining.length = min size actions.length := by
  have hlength := congrArg List.length h.remaining_eq
  rw [List.length_map, List.length_map, h.chosen.length_eq] at hlength
  exact hlength

theorem Deals.getElem?_eq (h : Deals actions size positions d) (k : Nat) :
    d.remaining[k]? = positions[k]?.bind (actions[·]?) := by
  have hget : (d.remaining.map some)[k]? = (positions.map (actions[·]?))[k]? := by
    rw [h.remaining_eq]
  rw [List.getElem?_map, List.getElem?_map] at hget
  cases hp : positions[k]? with
  | none =>
    rw [hp] at hget
    exact Option.map_eq_none_iff.mp hget
  | some p =>
    rw [hp] at hget
    obtain ⟨a, ha, heq⟩ := Option.map_eq_some_iff.mp hget
    rw [ha]
    exact heq

theorem deals_ofPositions (h : Chosen actions.length (min size actions.length) positions) :
    Deals actions size positions (ofPositions actions positions) := by
  refine ⟨h, ?_, rfl⟩
  have hsome : ∀ p ∈ positions, ∃ a, actions[p]? = some a := fun p hp =>
    ⟨_, List.getElem?_eq_getElem (h.lt p hp)⟩
  clear h
  induction positions with
  | nil => rfl
  | cons p positions ih =>
    obtain ⟨⟨a, ha⟩, hrest⟩ := List.forall_mem_cons.mp hsome
    have hget : actions.toArray[p]? = some a := by rw [List.getElem?_toArray, ha]
    simp only [ofPositions, List.filterMap_cons, hget, List.map_cons, ha]
    exact congrArg (some a :: ·) (ih hrest)

theorem deals_of_sample? (h : sample? actions size tape = some d) :
    ∃ positions, Deals actions size positions d := by
  obtain ⟨positions, hpositions, rfl⟩ := Option.map_eq_some_iff.mp h
  exact ⟨positions, deals_ofPositions (chosen_positions? hpositions)⟩

theorem sample?_append (h : sample? actions size tape = some d) (more : Tape) :
    sample? actions size (tape ++ more) = some d := by
  obtain ⟨positions, hpositions, rfl⟩ := Option.map_eq_some_iff.mp h
  rw [sample?, positions?_append hpositions more, Option.map_some]

/-! ## Decks of streams -/

/-- A stream of random words decides a deck with the first words that suffice, and what follows does
not change it. The deck has the shortcuts at different positions of the catalog, as many as were
asked for or as there are. Draws give them in turn, leave one less each, and then nothing for ever,
while the size stays. The prompts of a drill begin that row. If the words come again and again, in
pairs for a list that is too long for single words, they suffice at some time; if not, they may all
be passed over. -/
theorem sample_deals_without_replacement (actions : List Action) (size : Nat)
    (words : Stream' UInt32) :
    (∀ n d, sample? actions size (words.take n) = some d →
      (∀ m, n ≤ m → sample? actions size (words.take m) = some d) ∧
      ∃ positions, Deals actions size positions d ∧
        (∀ k, (d.after k).draw.1 = positions[k]?.bind (actions[·]?) ∧
          (d.after k).remaining.length = min size actions.length - k ∧
          (d.after k).size = min size actions.length) ∧
        ∀ line heard acts, (prompted (drillAfter d.remaining line heard acts).events).map some <+:
          positions.map (actions[·]?)) ∧
    (Plentiful actions.length words → actions.length ≤ longLimit →
      ∃ n d, sample? actions size (words.take n) = some d) := by
  constructor
  · intro n d h
    constructor
    · intro m hle
      obtain ⟨k, rfl⟩ := Nat.exists_eq_add_of_le hle
      rw [Stream'.take_add]
      exact sample?_append h _
    · obtain ⟨positions, hdeals⟩ := deals_of_sample? h
      refine ⟨positions, hdeals, fun k => ⟨?_, ?_, ?_⟩, fun line heard acts => ?_⟩
      · rw [draw_after]
        exact hdeals.getElem?_eq k
      · rw [after_eq, List.length_drop, hdeals.length_eq]
      · rw [after_eq, hdeals.size_eq, hdeals.length_eq]
      · rw [← hdeals.remaining_eq]
        exact (prompted_begins_deck d.remaining line heard acts).map some
  · intro hwords hlength
    obtain ⟨n, positions, h⟩ := exists_positions? hwords hlength
    exact ⟨n, ofPositions actions positions, by rw [sample?, h, Option.map_some]⟩

/-- All pairs of words, counted through again and again. -/
def counting : Stream' UInt32 := fun k =>
  if k % 2 = 0 then UInt32.ofNat (k / 2) else UInt32.ofNat (k / 2 / wordLimit)

theorem get_inPairs_counting (k : Nat) :
    (inPairs counting).get k = (UInt32.ofNat k, UInt32.ofNat (k / wordLimit)) := by
  have heven : counting.get (2 * k) = UInt32.ofNat (2 * k / 2) := if_pos (by omega)
  have hodd : counting.get (2 * k + 1) = UInt32.ofNat ((2 * k + 1) / 2 / wordLimit) :=
    if_neg (by omega)
  have hhalf : 2 * k / 2 = k := by omega
  have hhalf' : (2 * k + 1) / 2 = k := by omega
  change (counting.get (2 * k), counting.get (2 * k + 1)) = _
  rw [heven, hodd, hhalf, hhalf']

theorem ofNat_add_mul (w : UInt32) (n : Nat) : UInt32.ofNat (w.toNat + wordLimit * n) = w := by
  rw [← UInt32.toNat_inj, UInt32.toNat_ofNat']
  exact (Nat.add_mul_mod_self_left w.toNat wordLimit n).trans (Nat.mod_eq_of_lt w.toNat_lt)

theorem recurrent_pairs_counting : Recurrent (inPairs counting) := by
  rintro ⟨low, high⟩ m
  refine ⟨low.toNat + wordLimit * (high.toNat + wordLimit * m), ?_, ?_⟩
  · rw [wordLimit]
    omega
  · have hlow : low.toNat < wordLimit := low.toNat_lt
    rw [get_inPairs_counting, ofNat_add_mul, Nat.add_mul_div_left _ _ (by decide),
      Nat.div_eq_of_lt hlow, Nat.zero_add, ofNat_add_mul]

theorem plentiful_counting (n : Nat) : Plentiful n counting := by
  unfold Plentiful
  split
  · exact recurrent_pairs_counting.of_inPairs
  · exact recurrent_pairs_counting

/-- Two of three shortcuts, two of which are the same. -/
theorem counting_deals_two :
    let actions := [oneKey, oneKey, ⟨[], [.press .esc], "leave"⟩]
    let d : Deck := ⟨[⟨[], [.press .esc], "leave"⟩, oneKey], 2⟩
    sample? actions 2 (counting.take 2) = some d ∧ sample? actions 2 (counting.take 9) = some d ∧
      (∃ positions, Deals actions 2 positions d) ∧
      ∃ n d', sample? actions 2 (counting.take n) = some d' := by
  intro actions d
  have hsample : sample? actions 2 (counting.take 2) = some d := by decide +kernel
  obtain ⟨hdecided, hends⟩ := sample_deals_without_replacement actions 2 counting
  obtain ⟨hmore, positions, hdeals, _⟩ := hdecided 2 d hsample
  exact ⟨hsample, hmore 9 (by decide), ⟨positions, hdeals⟩,
    hends (plentiful_counting 3) (by decide)⟩

/-- The largest word again and again. -/
def ones : Stream' UInt32 := Stream'.const 0xFFFFFFFF

/-- For one of three shortcuts every word of `ones` is passed over, so none is ever dealt. -/
theorem ones_deal_nothing :
    let actions := [oneKey, oneKey, ⟨[], [.press .esc], "leave"⟩]
    ¬ ∃ n d, sample? actions 1 (ones.take n) = some d := by
  rintro actions ⟨n, d, h⟩
  have hpassed : ∀ k, scaled? wordLimit (zone 3) 3 (ones.get k).toNat = none := fun _ => by
    change scaled? wordLimit (zone 3) 3 0xFFFFFFFF = none
    decide
  have hdraw : from? 0 2 (ones.take n) = none := by rw [from?, below?_of_passed hpassed n]
  have hpick : pickFrom? pickInOrder [] 2 1 (ones.take n) = none := by
    simp only [pickFrom?, hdraw]
  have hway : Way.suiting 3 (min 1 3) = .pick := by decide
  have hpositions : positions? actions.length 1 (ones.take n) = none := by
    change (Way.suiting 3 (min 1 3)).choose? 3 1 (ones.take n) = none
    rw [hway, Way.choose?, picked?, if_pos (by decide), hpick]
    rfl
  rw [sample?, hpositions] at h
  cases h

end ChordDrill.Deck

import ChordDrill.Catalog
import ChordDrill.Proofs.Text.LetterCase
import ChordDrill.Proofs.Text.Words

/-!
# ChordDrill.Proofs.Catalog.Selection

The shortcuts that written paths select.

* `Context.Path.Parts` — what stands between the slashes of a written path.
* `slashes`            — a path without any part.

A path covers a context if its parts are a beginning of the parts of the context, in lower case
(`covers_iff`). Paths with the same parts select the same shortcuts (`retain_congr`). The path
joined from the first parts of a context covers it (`ofString_intercalate`), and so does every other
letter case of what the screen shows for them (`ofString_of_pretty`).
-/

namespace ChordDrill

open Text

namespace Context

/-! ## Written paths -/

namespace Path

/-- The parts of a written path. Any number of slashes stand before, between and behind them. -/
def Parts (p : String) (parts : List String) : Prop :=
  WordsOf (· == '/') p.toList (parts.map String.toList)

variable {p : String} {parts : List String}

theorem exists_parts (p : String) :
    ∃ parts, Parts p parts ∧ ofString p = parts.map lowerString := by
  refine ⟨(Text.parts '/' p).filter (· ≠ ""), ?_, rfl⟩
  have hempty : ((fun part : String => decide (part ≠ "")) ∘ String.ofList) =
      fun cs => decide (cs ≠ []) := by
    funext cs
    simp
  have hmap : ((Text.parts '/' p).filter (· ≠ "")).map String.toList =
      (p.toList.splitOn '/').filter (· ≠ []) := by
    rw [Text.parts, List.filter_map, hempty, List.map_map]
    simp
  rw [Parts, hmap]
  exact wordsOf_splitOn '/' p.toList

theorem Parts.unique {parts' : List String} (h : Parts p parts) (h' : Parts p parts') :
    parts = parts' :=
  List.map_injective_iff.mpr (fun _ _ => String.toList_injective) (WordsOf.unique h h')

theorem ofString_of_parts (h : Parts p parts) : ofString p = parts.map lowerString := by
  obtain ⟨parts', h', heq⟩ := exists_parts p
  rw [heq, h.unique h']

theorem covers_iff {path : Path} {ctx : Context} :
    path.covers ctx = true ↔ path <+: ctx.map lowerString := by
  induction path generalizing ctx with
  | nil => simp [covers]
  | cons want path ih =>
    cases ctx with
    | nil => simp [covers]
    | cons part ctx =>
      rw [covers, Bool.and_eq_true, beq_iff_eq, ih, List.map_cons, List.cons_prefix_cons]

end Path

/-! ## Slashes -/

def slashes (n : Nat) : String := String.ofList (List.replicate n '/')

section
open Context.Path

theorem slash_of_mem {n : Nat} : ∀ c ∈ (slashes n).toList, (c == '/') = true := by
  rw [slashes, String.toList_ofList]
  intro c hc
  rw [beq_iff_eq]
  exact List.eq_of_mem_replicate hc

theorem slash_of_head {n : Nat} {t : List Char} :
    ∀ c ∈ ((slashes (n + 1)).toList ++ t).head?, (c == '/') = true := by
  rw [slashes, String.toList_ofList, List.replicate_succ, List.cons_append, List.head?_cons]
  simp

theorem ofString_slashes (n : Nat) : ofString (slashes n) = [] := by
  have h : Parts (slashes n) [] := by
    have hskip := WordsOf.nil.skip_append (slash_of_mem (n := n))
    rwa [List.append_nil] at hskip
  exact ofString_of_parts h

theorem ofString_slashes_append (n : Nat) (p : String) :
    ofString (slashes n ++ p) = ofString p := by
  obtain ⟨parts, h, heq⟩ := exists_parts p
  have happend : Parts (slashes n ++ p) parts := by
    rw [Parts, String.toList_append]
    exact h.skip_append slash_of_mem
  rw [heq, ofString_of_parts happend]

/-- Behind a path stand slashes and then another one: the parts of both. -/
theorem ofString_append_slashes_append (n : Nat) (p q : String) :
    ofString (p ++ slashes (n + 1) ++ q) = ofString p ++ ofString q := by
  obtain ⟨parts, h, heq⟩ := exists_parts p
  obtain ⟨parts', h', heq'⟩ := exists_parts q
  have happend : Parts (p ++ slashes (n + 1) ++ q) (parts ++ parts') := by
    rw [Parts, String.toList_append, String.toList_append, List.append_assoc, List.map_append]
    exact h.append (h'.skip_append slash_of_mem) slash_of_head
  rw [heq, heq', ofString_of_parts happend, List.map_append]

theorem ofString_append_slashes (n : Nat) (p : String) :
    ofString (p ++ slashes n) = ofString p := by
  cases n with
  | zero => rw [show slashes 0 = "" from rfl, String.append_empty]
  | succ n =>
    have h := ofString_append_slashes_append n p ""
    rw [String.append_empty, show ofString "" = [] from ofString_slashes 0, List.append_nil] at h
    exact h

/-! ## Paths of contexts -/

variable {p : String} {ctx : Context}

/-- A context whose parts can be written in a path. -/
def Writable (ctx : Context) : Prop := ∀ part ∈ ctx, part ≠ "" ∧ '/' ∉ part.toList

theorem parts_intercalate (h : Writable ctx) : Parts ("/".intercalate ctx) ctx := by
  rw [Parts, String.toList_intercalate]
  refine wordsOf_intercalate (beq_self_eq_true '/') ?_
  rw [List.forall_mem_map]
  intro part hpart
  obtain ⟨hne, hslash⟩ := h part hpart
  refine ⟨fun hnil => hne (String.toList_eq_nil_iff.mp hnil), ?_⟩
  intro c hc
  rw [beq_eq_false_iff_ne]
  rintro rfl
  exact hslash hc

theorem ofString_intercalate (h : Writable ctx) :
    ofString ("/".intercalate ctx) = ctx.map lowerString :=
  ofString_of_parts (parts_intercalate h)

/-! ## Letter case -/

theorem toLower_beq_slash (c : Char) : (c.toLower == '/') = (c == '/') := by
  by_cases hc : c.toNat < 128
  · exact forall_ascii (P := fun c => (c.toLower == '/') = (c == '/')) (by decide) hc
  · have hne : c ≠ '/' := by
      rintro rfl
      exact hc (by decide)
    have hne' : c.toLower ≠ '/' := by
      intro h
      rw [← toNat_toLower_lt, h] at hc
      exact hc (by decide)
    rw [beq_false_of_ne hne, beq_false_of_ne hne']

/-- An ASCII path has the parts of itself in lower case. -/
theorem ofString_toLower (h : Ascii p.toList) : ofString p.toLower = ofString p := by
  obtain ⟨parts, hparts, heq⟩ := exists_parts p
  have hlower : Parts p.toLower (parts.map String.toLower) := by
    have hmap := WordsOf.map toLower_beq_slash hparts
    rw [List.map_map] at hmap
    rw [Parts, toList_toLower, List.map_map]
    simpa only [Function.comp_def, toList_toLower] using hmap
  have hascii : ∀ part ∈ parts, Ascii part.toList := fun part hpart c hc =>
    h c (hparts.mem_of_mem (List.mem_map_of_mem hpart) c hc)
  rw [heq, ofString_of_parts hlower, List.map_map]
  refine List.map_congr_left fun part hpart => ?_
  rw [Function.comp_apply, lowerString_toLower (hascii part hpart)]

theorem toLower_capitalize {part : String} (h : Ascii part.toList) :
    (capitalize part).toLower = part.toLower := by
  rw [← String.toList_inj, toList_toLower, toList_toLower, capitalize]
  cases hpart : part.toList with
  | nil => rfl
  | cons c cs =>
    rw [hpart] at h
    have hc : c.toNat < 128 := h c List.mem_cons_self
    have hlower : ∀ d ∈ cs, (lowerChar d).map Char.toLower = [d.toLower] := by
      intro d hd
      have hd : d.toNat < 128 := h d (List.mem_cons_of_mem c hd)
      rw [lowerChar_of_ascii hd, List.map_singleton, toLower_toLower hd]
    have hrest : (cs.flatMap lowerChar).map Char.toLower = cs.map Char.toLower := by
      rw [List.map_flatMap, List.flatMap_congr hlower, List.map_eq_flatMap]
    rw [String.toList_ofList, List.map_append, upperChar_of_ascii hc, List.map_singleton,
      toLower_toUpper hc, hrest]
    rfl

theorem toLower_pretty (h : ∀ part ∈ ctx, Ascii part.toList) :
    (pretty ctx).toLower = ("/".intercalate ctx).toLower := by
  rw [pretty, toLower_intercalate, toLower_intercalate, List.map_map]
  refine congrArg _ (List.map_congr_left fun part hpart => ?_)
  exact toLower_capitalize (h part hpart)

/-- Every letter case of what the screen shows for a context is a path of the context. -/
theorem ofString_of_pretty (hctx : Writable ctx) (hascii : ∀ part ∈ ctx, Ascii part.toList)
    (hp : p.toLower = (pretty ctx).toLower) : ofString p = ctx.map lowerString := by
  rw [toLower_pretty hascii] at hp
  have hjoined : Ascii ("/".intercalate ctx).toList := ascii_intercalate (by decide +kernel) hascii
  have hpath : Ascii p.toList := by
    rw [← ascii_toLower, hp, ascii_toLower]
    exact hjoined
  rw [← ofString_toLower hpath, hp, ofString_toLower hjoined, ofString_intercalate hctx]

end

end Context

/-! ## Selection -/

namespace Catalog

open Context

variable {c : Catalog} {paths paths' : List String} {a : Action} {p : String}

theorem wanted_iff : wanted paths a = true ↔ ∃ p ∈ paths, ∃ parts, Path.Parts p parts ∧
    parts.map lowerString <+: a.context.map lowerString := by
  rw [wanted, List.any_eq_true]
  refine exists_congr fun p => and_congr_right fun _ => ?_
  rw [Path.covers_iff]
  constructor
  · intro h
    obtain ⟨parts, hparts, heq⟩ := Path.exists_parts p
    exact ⟨parts, hparts, heq ▸ h⟩
  · rintro ⟨parts, hparts, h⟩
    rwa [Path.ofString_of_parts hparts]

theorem actions_retain (h : paths ≠ []) :
    (c.retain paths).actions = c.actions.filter (wanted paths) := by
  rw [retain, if_neg h]

theorem retain_congr (h : paths.map Path.ofString = paths'.map Path.ofString) :
    c.retain paths = c.retain paths' := by
  have hwanted : wanted paths = wanted paths' := by
    funext a
    have hany := congrArg (List.any · fun path => path.covers a.context) h
    rw [List.any_map, List.any_map] at hany
    exact hany
  have hnil : paths = [] ↔ paths' = [] := by
    rw [← List.map_eq_nil_iff (f := Path.ofString), h, List.map_eq_nil_iff]
  rw [retain, retain, hwanted]
  exact if_congr hnil rfl rfl

theorem retain_replace {before after : List String} {q : String}
    (h : Path.ofString p = Path.ofString q) :
    c.retain (before ++ p :: after) = c.retain (before ++ q :: after) := by
  refine retain_congr ?_
  rw [List.map_append, List.map_append, List.map_cons, List.map_cons, h]

theorem mem_retain_of_prefix (ha : a ∈ c.actions) (hp : p ∈ paths)
    (h : Path.ofString p <+: a.context.map lowerString) : a ∈ (c.retain paths).actions := by
  rw [mem_actions_retain]
  refine ⟨ha, .inr ?_⟩
  rw [wanted, List.any_eq_true]
  exact ⟨p, hp, Path.covers_iff.mpr h⟩

theorem retain_of_slashes {n : Nat} (h : slashes n ∈ paths) : c.retain paths = c := by
  have hall : ∀ a ∈ c.actions, wanted paths a = true := by
    intro a _
    rw [wanted, List.any_eq_true]
    refine ⟨slashes n, h, ?_⟩
    rw [ofString_slashes, Path.covers]
  rw [retain, if_neg (List.ne_nil_of_mem h), List.filter_eq_self.mpr hall]

/-- Paths select the shortcuts for which the parts of one of them are a beginning of the parts of
the context, in lower case and in the order of the catalog. Slashes beyond one between two parts do
not count, and slashes alone select everything. Of a context whose parts can be written, the path
joined from any number of its first parts selects it, and if they are ASCII, so does what the screen
shows for them, in any letter case. -/
theorem retain_selects_by_path (c : Catalog) :
    (∀ paths, paths ≠ [] → (c.retain paths).actions = c.actions.filter (wanted paths)) ∧
    (∀ paths a, wanted paths a = true ↔ ∃ p ∈ paths, ∃ parts, Path.Parts p parts ∧
      parts.map lowerString <+: a.context.map lowerString) ∧
    (∀ before after p q n,
      c.retain (before ++ (slashes n ++ p) :: after) = c.retain (before ++ p :: after) ∧
      c.retain (before ++ (p ++ slashes n) :: after) = c.retain (before ++ p :: after) ∧
      c.retain (before ++ (p ++ slashes (n + 1) ++ q) :: after) =
        c.retain (before ++ (p ++ "/" ++ q) :: after) ∧
      c.retain (before ++ slashes n :: after) = c) ∧
    (∀ a ∈ c.actions, Writable a.context → ∀ k,
      (∀ paths, "/".intercalate (a.context.take k) ∈ paths → a ∈ (c.retain paths).actions) ∧
      ((∀ part ∈ a.context.take k, Ascii part.toList) →
        ∀ p, p.toLower = (pretty (a.context.take k)).toLower →
        ∀ paths, p ∈ paths → a ∈ (c.retain paths).actions)) := by
  refine ⟨fun paths h => actions_retain h, fun paths a => wanted_iff, ?_, ?_⟩
  · intro before after p q n
    refine ⟨retain_replace (ofString_slashes_append n p),
      retain_replace (ofString_append_slashes n p), retain_replace ?_,
      retain_of_slashes (List.mem_append_cons_self)⟩
    rw [ofString_append_slashes_append]
    exact (ofString_append_slashes_append 0 p q).symm
  · intro a ha hwritable k
    have hprefix : (a.context.take k).map lowerString <+: a.context.map lowerString :=
      (List.take_prefix k a.context).map lowerString
    have htake : Writable (a.context.take k) := fun part hpart =>
      hwritable part (List.mem_of_mem_take hpart)
    constructor
    · intro paths hp
      refine mem_retain_of_prefix ha hp ?_
      rwa [ofString_intercalate htake]
    · intro hascii p hp paths hmem
      refine mem_retain_of_prefix ha hmem ?_
      rwa [ofString_of_pretty htake hascii hp]

def goToLine : Action where
  context := ["PyCharm", "editor", "vim normal"]
  combo := []
  description := "go to line"

def openTab : Action where
  context := ["Terminal"]
  combo := []
  description := "open a tab"

theorem retain_vim_normal :
    ((⟨[goToLine, openTab, goToLine]⟩ : Catalog).retain ["/pycharm//EDITOR"]).actions =
      [goToLine, goToLine] ∧
    goToLine ∈ ((⟨[goToLine, openTab, goToLine]⟩ : Catalog).retain ["PyCharm/editor"]).actions ∧
    goToLine ∈ ((⟨[goToLine, openTab, goToLine]⟩ : Catalog).retain
      ["PYCHARM/Editor/VIM NORMAL"]).actions := by
  obtain ⟨hactions, -, -, hcontext⟩ := retain_selects_by_path ⟨[goToLine, openTab, goToLine]⟩
  have hmem : goToLine ∈ [goToLine, openTab, goToLine] := List.mem_cons_self
  have hwritable : Writable goToLine.context := by
    rw [Writable]
    decide
  have hcase : "PYCHARM/Editor/VIM NORMAL".toLower =
      (pretty (goToLine.context.take 3)).toLower := by
    rw [← String.toList_inj, toList_toLower, toList_toLower]
    decide +kernel
  refine ⟨(hactions ["/pycharm//EDITOR"] (by decide)).trans (by decide +kernel), ?_, ?_⟩
  · exact (hcontext goToLine hmem hwritable 2).1 ["PyCharm/editor"] List.mem_cons_self
  · exact (hcontext goToLine hmem hwritable 3).2 (by decide +kernel) "PYCHARM/Editor/VIM NORMAL"
      hcase
      ["PYCHARM/Editor/VIM NORMAL"] List.mem_cons_self

end Catalog

end ChordDrill

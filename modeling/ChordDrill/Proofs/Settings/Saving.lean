import ChordDrill.Proofs.Toml.Rendered
import ChordDrill.Settings.File

/-!
# ChordDrill.Proofs.Settings.Saving

Settings that are saved and loaded.

The text of settings is a rendered document, so it reads as the tables of its sections; from these
each record is read field by field, and a field that was left out comes back as not set
(`optional_whenSet`). Only numbers can keep settings from being written (`fits_sections_iff`). What
a disk does with the text is left to it; it has to give back what was written (`Disk.Keeps`).
-/

namespace ChordDrill

open Toml

/-! ## Fields -/

theorem word64?_toNat (n : UInt64) : word64? (Simple.natural n.toNat).value = some n := by
  simp [word64?, Simple.value, Value.natural?]

theorem word32?_toNat (n : UInt32) : word32? (Simple.natural n.toNat).value = some n := by
  have hlt : n.toNat < 0x100000000 := n.toNat_lt
  simp [word32?, Simple.value, Value.natural?, hlt]

theorem boolean?_boolean (b : Bool) : (Simple.boolean b).value.boolean? = some b := rfl

theorem string?_string (s : String) : (Simple.string s).value.string? = some s := rfl

theorem strings?_strings (l : List String) :
    (Simple.strings l).value.strings? = some l := by
  simp only [Simple.value, Value.strings?]
  induction l with
  | nil => rfl
  | cons s l ih => simp [List.mapM_cons, Value.string?, ih]

theorem Theme.ofValue?_name (t : Theme) :
    Theme.ofValue? (Simple.string t.name).value = some t := t.ofName?_name

section

variable {α : Type} {t : Table} {name : String} {read : Value → Option α}

theorem optional_set {v : Value} {a : α} (h : t.lookup name = some v) (hread : read v = some a)
    (default : α) : Toml.optional (fun name => t.lookup name) name read default = some a := by
  rw [Toml.optional, h]
  exact hread

/-- A field that is left out when it is not set comes back as it was. -/
theorem optional_whenSet {o : Option α} {make : α → Simple}
    (h : t.lookup name = o.map fun a => (make a).value)
    (hread : ∀ a, read (make a).value = some a) :
    Toml.optional (fun name => t.lookup name) name (fun v => (read v).map some) none = some o := by
  rw [Toml.optional, h]
  cases o with
  | none => rfl
  | some a => simp only [Option.map_some, hread]

end

/-! ## Sections -/

theorem DrillSettings.ofValue?_toSection (d : DrillSettings) :
    ofValue? (.table .header d.toSection.table) = some d := by
  have hsize : d.toSection.table.lookup "session_size" =
      some (Simple.natural d.sessionSize.toNat).value := rfl
  have hmatch : d.toSection.table.lookup "match_pause_ms" =
      some (Simple.natural d.matchPause.toNat).value := rfl
  have hmismatch : d.toSection.table.lookup "mismatch_pause_ms" =
      some (Simple.natural d.mismatchPause.toNat).value := rfl
  have hseed : d.toSection.table.lookup "seed" =
      d.seed.map fun n => (Simple.natural n.toNat).value := by
    obtain ⟨sessionSize, matchPause, mismatchPause, seed⟩ := d
    cases seed <;> rfl
  simp only [ofValue?, fields?, Option.bind_eq_bind, Option.bind_some,
    optional_set hsize (word64?_toNat _), optional_set hmatch (word64?_toNat _),
    optional_set hmismatch (word64?_toNat _), optional_whenSet hseed word64?_toNat]

theorem CatalogSettings.ofValue?_toSection (c : CatalogSettings) :
    ofValue? (.table .header c.toSection.table) = some c := by
  have hbuiltin : c.toSection.table.lookup "builtin" = some (Simple.boolean c.builtin).value := rfl
  have hfiles : c.toSection.table.lookup "files" = some (Simple.strings c.files).value := rfl
  have hcontexts : c.toSection.table.lookup "contexts" = some (Simple.strings c.contexts).value :=
    rfl
  simp only [ofValue?, fields?, Option.bind_eq_bind, Option.bind_some,
    optional_set hbuiltin (boolean?_boolean _), optional_set hfiles (strings?_strings _),
    optional_set hcontexts (strings?_strings _)]

theorem ScreenSettings.ofValue?_toSection (c : ScreenSettings) :
    ofValue? (.table .header c.toSection.table) = some c := by
  have hrate : c.toSection.table.lookup "refresh_rate_hz" =
      some (Simple.natural c.refreshRate.toNat).value := rfl
  have htheme : c.toSection.table.lookup "theme" = some (Simple.string c.theme.name).value := rfl
  simp only [ofValue?, fields?, Option.bind_eq_bind, Option.bind_some,
    optional_set hrate (word32?_toNat _), optional_set htheme (Theme.ofValue?_name _)]

theorem LogSettings.ofValue?_toSection (l : LogSettings) :
    ofValue? (.table .header l.toSection.table) = some l := by
  have hlevel : l.toSection.table.lookup "level" = some (Simple.string l.level).value := rfl
  have hfile : l.toSection.table.lookup "file" = l.file.map fun s => (Simple.string s).value := by
    obtain ⟨level, file⟩ := l
    cases file <;> rfl
  simp only [ofValue?, fields?, Option.bind_eq_bind, Option.bind_some,
    optional_set hlevel (string?_string _), optional_whenSet hfile string?_string]

theorem DrillSettings.plain_toSection {d : DrillSettings} (h : d.toSection.fits = true) :
    d.toSection.Plain := by
  obtain ⟨sessionSize, matchPause, mismatchPause, seed⟩ := d
  cases seed with
  | none =>
    exact Section.plain_of_keys "trainer" ["session_size", "match_pause_ms", "mismatch_pause_ms"]
      rfl rfl (by decide) h
  | some n =>
    exact Section.plain_of_keys "trainer"
      ["session_size", "match_pause_ms", "mismatch_pause_ms", "seed"] rfl rfl (by decide) h

theorem CatalogSettings.plain_toSection {c : CatalogSettings} (h : c.toSection.fits = true) :
    c.toSection.Plain :=
  Section.plain_of_keys "catalog" ["builtin", "files", "contexts"] rfl rfl (by decide) h

theorem ScreenSettings.plain_toSection {c : ScreenSettings} (h : c.toSection.fits = true) :
    c.toSection.Plain :=
  Section.plain_of_keys "ui" ["refresh_rate_hz", "theme"] rfl rfl (by decide) h

theorem LogSettings.plain_toSection {l : LogSettings} (h : l.toSection.fits = true) :
    l.toSection.Plain := by
  obtain ⟨level, file⟩ := l
  cases file with
  | none => exact Section.plain_of_keys "log" ["level"] rfl rfl (by decide) h
  | some file => exact Section.plain_of_keys "log" ["level", "file"] rfl rfl (by decide) h

/-! ## Texts -/

namespace Settings

theorem plain_of_mem_sections {s : Settings} (h : s.sections.all Section.fits = true) :
    ∀ sec ∈ s.sections, sec.Plain := by
  simp only [sections, List.all_cons, List.all_nil, Bool.and_true, Bool.and_eq_true] at h
  obtain ⟨hdrill, hcatalog, hscreen, hlog⟩ := h
  intro sec hsec
  simp only [sections, List.mem_cons, List.not_mem_nil, or_false] at hsec
  rcases hsec with rfl | rfl | rfl | rfl
  · exact DrillSettings.plain_toSection hdrill
  · exact CatalogSettings.plain_toSection hcatalog
  · exact ScreenSettings.plain_toSection hscreen
  · exact LogSettings.plain_toSection hlog

theorem nodup_sections (s : Settings) : (s.sections.map Section.name).Nodup := by
  have hnames : ["trainer", "catalog", "ui", "log"].Nodup := by decide
  exact hnames

theorem ofTable?_sections (s : Settings) :
    ofTable? (s.sections.map fun sec => (sec.name, .table .header sec.table)) = some s := by
  have hroot : ofTable? (s.sections.map fun sec => (sec.name, .table .header sec.table)) =
      (DrillSettings.ofValue? (.table .header s.drill.toSection.table)).bind fun drill =>
      (CatalogSettings.ofValue? (.table .header s.catalog.toSection.table)).bind fun catalog =>
      (ScreenSettings.ofValue? (.table .header s.screen.toSection.table)).bind fun screen =>
      (LogSettings.ofValue? (.table .header s.log.toSection.table)).bind fun log =>
        some { drill, catalog, screen, log } := rfl
  rw [hroot, DrillSettings.ofValue?_toSection, CatalogSettings.ofValue?_toSection,
    ScreenSettings.ofValue?_toSection, LogSettings.ofValue?_toSection]
  rfl

/-- What is written is read. -/
theorem read?_render {s : Settings} (h : s.sections.all Section.fits = true) :
    read? (render s.sections) = some s := by
  rw [read?, document?_render (plain_of_mem_sections h) s.nodup_sections]
  exact s.ofTable?_sections

/-- The numbers are at most 2^63 - 1, the largest one of 64 bits with sign. -/
structure Storable (s : Settings) : Prop where
  sessionSize : s.drill.sessionSize.toNat ≤ 0x7FFFFFFFFFFFFFFF
  matchPause : s.drill.matchPause.toNat ≤ 0x7FFFFFFFFFFFFFFF
  mismatchPause : s.drill.mismatchPause.toNat ≤ 0x7FFFFFFFFFFFFFFF
  seed : ∀ n ∈ s.drill.seed, n.toNat ≤ 0x7FFFFFFFFFFFFFFF

theorem fits_natural_iff (n : Nat) : (Simple.natural n).fits = true ↔ n ≤ 0x7FFFFFFFFFFFFFFF := by
  have hlimit : integerLimit = 0x8000000000000000 := rfl
  rw [Simple.fits, decide_eq_true_eq, hlimit]
  omega

theorem fits_drill_iff (s : Settings) : s.drill.toSection.fits = true ↔ s.Storable := by
  obtain ⟨⟨sessionSize, matchPause, mismatchPause, seed⟩, catalog, screen, log⟩ := s
  have hseed : (whenSet "seed" (fun n : UInt64 => .natural n.toNat) seed).all (fun e => e.2.fits) =
      true ↔ ∀ n ∈ seed, n.toNat ≤ 0x7FFFFFFFFFFFFFFF := by
    cases seed with
    | none => simp [whenSet]
    | some n => simp [whenSet, fits_natural_iff]
  simp only [DrillSettings.toSection, Section.fits, List.cons_append, List.nil_append,
    List.all_cons, Bool.and_eq_true, fits_natural_iff, hseed]
  constructor
  · rintro ⟨hsize, hmatch, hmismatch, hseed⟩
    exact ⟨hsize, hmatch, hmismatch, hseed⟩
  · rintro ⟨hsize, hmatch, hmismatch, hseed⟩
    exact ⟨hsize, hmatch, hmismatch, hseed⟩

theorem fits_screen (c : ScreenSettings) : c.toSection.fits = true := by
  have hrate : (Simple.natural c.refreshRate.toNat).fits = true := by
    have hlt : c.refreshRate.toNat < 0x100000000 := c.refreshRate.toNat_lt
    rw [fits_natural_iff]
    omega
  rw [Section.fits, ScreenSettings.toSection, List.all_cons, hrate]
  rfl

theorem fits_log (l : LogSettings) : l.toSection.fits = true := by
  obtain ⟨level, file⟩ := l
  cases file with
  | none => rfl
  | some file => rfl

/-- Settings can be written if their numbers allow it: all texts and lists can. -/
theorem fits_sections_iff (s : Settings) : s.sections.all Section.fits = true ↔ s.Storable := by
  have hcatalog : s.catalog.toSection.fits = true := rfl
  rw [← fits_drill_iff]
  simp [sections, hcatalog, fits_screen, fits_log]

theorem text_of_storable {s : Settings} (h : s.Storable) :
    ∃ t, s.text = .ok t ∧ parse t = .ok s := by
  have hfits := s.fits_sections_iff.mpr h
  refine ⟨render s.sections, ?_, ?_⟩
  · rw [text, write?, if_pos hfits]
  · rw [parse, read?_render hfits]

theorem text_of_not_storable {s : Settings} (h : ¬ s.Storable) : s.text = .error .unwritable := by
  rw [text, write?, if_neg (fun hfits => h (s.fits_sections_iff.mp hfits))]

end Settings

/-! ## Files -/

/-- A text that was written to the path is read from it. A device that takes a text and drops it
does not keep it. -/
def Disk.Keeps {σ : Type} (disk : Disk σ) (path : String) : Prop :=
  ∀ text now after, disk.write path text now = (.ok (), after) →
    (disk.files after).readText path = .ok text

/-- A folder keeps what is written under a plain name. -/
theorem Folder.disk_keeps {name : String} (hfault : pathFault? name = none)
    (hstart : startOf name = .working) (hparts : Text.parts '/' name = [name])
    (hdots : name ≠ "" ∧ name ≠ "." ∧ name ≠ "..") (hsize : name.utf8ByteSize ≤ nameLimit) :
    disk.Keeps name := by
  intro text f after hwrite
  have hafter : after = f.put name (.text text) := by
    simp only [disk, write, hparts, hstart] at hwrite
    split at hwrite
    · cases hwrite
    · simp only [List.dropLast_singleton, List.getLast?_singleton, follow] at hwrite
      cases hwrite
      rfl
  have hfind : (f.put name (.text text)).find name = .file (.text text) := by
    obtain ⟨hempty, hdot, hup⟩ := hdots
    have hlookup : (f.put name (.text text)).entries.lookup name = some (.text text) :=
      List.lookup_cons_self
    simp [find, hfault, hstart, hparts, follow, hempty, hdot, hup, Nat.not_lt.mpr hsize, lookIn,
      hlookup]
  simp only [hafter, disk, files, readText, hfind, Content.read]

namespace Settings

/-- Saved settings are loaded again as they were. They can be saved as long as their numbers allow
it; else nothing is written. -/
theorem loadFrom_saveTo {σ : Type} {disk : Disk σ} {path : String} (hkeeps : disk.Keeps path)
    (s : Settings) (now : σ) :
    (s.Storable → ∃ t, parse t = .ok s ∧
      s.saveTo disk path now =
        ((disk.write path t now).1.mapError .file, (disk.write path t now).2) ∧
      ((disk.write path t now).1 = .ok () →
        loadFrom (disk.files (s.saveTo disk path now).2) path = .ok s)) ∧
    (¬ s.Storable → s.saveTo disk path now = (.error .unwritable, now)) := by
  constructor
  · intro h
    obtain ⟨t, htext, hparse⟩ := text_of_storable h
    have hsave : s.saveTo disk path now =
        ((disk.write path t now).1.mapError .file, (disk.write path t now).2) := by
      rw [saveTo, htext]
    refine ⟨t, hparse, hsave, fun hwrite => ?_⟩
    have hread := hkeeps t now (disk.write path t now).2 (Prod.ext hwrite rfl)
    rw [hsave, loadFrom, hread]
    exact hparse
  · intro h
    rw [saveTo, text_of_not_storable h]

/-- Settings whose texts ask for all forms of quotes, with the largest seed that can be written. -/
def quoteful : Settings where
  drill := { seed := some 0x7FFFFFFFFFFFFFFF }
  catalog :=
    { files := ["C:\\keys.toml"]
      contexts := ["\"\"\"'''\\\n\x07", "it's \"one\"", "\"\"\"\n"] }
  log := { level := "", file := some "\r\n\t" }

/-- A folder with settings of before. -/
def usedFolder : Folder := { entries := [("config.toml", .text "[trainer]\nsession_size = 3\n")] }

theorem quoteful_comes_back :
    (quoteful.Storable ∧
      (quoteful.saveTo Folder.disk "config.toml" usedFolder).1 = .ok () ∧
      loadFrom (Folder.disk.files (quoteful.saveTo Folder.disk "config.toml" usedFolder).2)
        "config.toml" = .ok quoteful) ∧
    ¬ Storable { drill := { seed := some 0x8000000000000000 } } ∧
    saveTo { drill := { seed := some 0x8000000000000000 } } Folder.disk "config.toml" usedFolder =
      (.error .unwritable, usedFolder) := by
  have hkeeps : Folder.disk.Keeps "config.toml" :=
    Folder.disk_keeps (by decide) (by decide +kernel) (by decide) (by decide) (by decide)
  have hwrite : ∀ t, (Folder.disk.write "config.toml" t usedFolder).1 = .ok () := by
    have hopen : usedFolder.openLog "config.toml" = .ok () := by decide +kernel
    intro t
    simp only [Folder.disk, Folder.write, hopen]
    split <;> rfl
  have hlargest : quoteful.Storable :=
    { sessionSize := by decide, matchPause := by decide, mismatchPause := by decide,
      seed := fun n hn => by cases hn; decide }
  have hlarger : ¬ Storable { drill := { seed := some 0x8000000000000000 } } :=
    fun h => absurd (h.seed _ rfl) (by decide)
  obtain ⟨t, -, hsave, hload⟩ := (loadFrom_saveTo hkeeps quoteful usedFolder).1 hlargest
  refine ⟨⟨hlargest, ?_, hload (hwrite t)⟩, hlarger, ?_⟩
  · rw [hsave, hwrite t]
    rfl
  · exact (loadFrom_saveTo hkeeps _ usedFolder).2 hlarger

end Settings

end ChordDrill

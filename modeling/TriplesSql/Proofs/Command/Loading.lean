import TriplesSql.Command.Run
import TriplesSql.Proofs.Mapping.Validity

/-!
# Settings and documents of a request

A request for queries looks for its settings in one file at most, the first that counts, and does
not look further if that file holds no settings. Its document is the one that the text of its file
holds, if this is valid.
-/

namespace TriplesSql.Command

variable {around : Surroundings} {r : UnfoldRequest} {s : Settings} {d : Document}

/-- The file in which settings are looked for when a file is named or not: the named one, or else
the one that the environment names, the one in the working directory or the one of the user. Each
counts if the ones before it do not, the last two only if they are there. -/
inductive LooksAt (around : Surroundings) : Option String → Option String → Prop where
  | named (path : String) : LooksAt around (some path) (some path)
  | environment {path : String} (hpath : around.places.namedFile? = some path) :
    LooksAt around none (some path)
  | workingDirectory (hpath : around.places.namedFile? = none)
    (hlocal : (around.files Settings.localFile).isPresent) :
    LooksAt around none (some Settings.localFile)
  | user {directory : String} (hpath : around.places.namedFile? = none)
    (hlocal : ¬(around.files Settings.localFile).isPresent)
    (hdirectory : around.places.userDirectory? = some directory)
    (huser : (around.files (Settings.userFile directory)).isPresent) :
    LooksAt around none (some (Settings.userFile directory))
  | nowhere (hpath : around.places.namedFile? = none)
    (hlocal : ¬(around.files Settings.localFile).isPresent)
    (huser : ∀ directory, around.places.userDirectory? = some directory →
      ¬(around.files (Settings.userFile directory)).isPresent) :
    LooksAt around none none

/-- The settings that are found when a file is named or not: those that the text of the file that
counts holds, and the defaults if none counts. -/
inductive FindsSettings (around : Surroundings) (config : Option String) : Settings → Prop where
  | ofText {path text : String} {s : Settings} (hplace : LooksAt around config (some path))
    (htext : around.files path = .text text) (hs : Settings.ofText text = .ok s) :
    FindsSettings around config s
  | defaults (hplace : LooksAt around config none) : FindsSettings around config {}

theorem loadSettingsFile_eq_ok_iff {files : String → Entry} {path : String} :
    Settings.loadFile files path = .ok s
      ↔ ∃ text, files path = .text text ∧ Settings.ofText text = .ok s := by
  unfold Settings.loadFile
  cases files path <;> simp [Entry.isPresent, Entry.read, mapError_eq_ok_iff]

theorem exists_looksAt (around : Surroundings) (config : Option String) :
    ∃ place, LooksAt around config place := by
  cases config with
  | some path => exact ⟨_, .named path⟩
  | none =>
    cases hpath : around.places.namedFile? with
    | some path => exact ⟨_, .environment hpath⟩
    | none =>
      by_cases hlocal : (around.files Settings.localFile).isPresent
      · exact ⟨_, .workingDirectory hpath hlocal⟩
      · by_cases huser : ∃ directory, around.places.userDirectory? = some directory
          ∧ (around.files (Settings.userFile directory)).isPresent
        · obtain ⟨directory, hdirectory, huser⟩ := huser
          exact ⟨_, .user hpath hlocal hdirectory huser⟩
        · exact ⟨_, .nowhere hpath hlocal fun directory hdirectory hthere =>
            huser ⟨directory, hdirectory, hthere⟩⟩

def loaded (around : Surroundings) (config : Option String) : Except Settings.LoadError Settings :=
  match config with
  | some path => Settings.loadFile around.files path
  | none => Settings.load around.files around.places

theorem LooksAt.loaded_eq {config place : Option String} (h : LooksAt around config place) :
    loaded around config = match place with
      | some path => Settings.loadFile around.files path
      | none => .ok {} := by
  cases h with
  | named path => rfl
  | environment hpath => simp [loaded, Settings.load, hpath]
  | workingDirectory hpath hlocal => simp [loaded, Settings.load, hpath, hlocal]
  | user hpath hlocal hdirectory huser =>
    simp [loaded, Settings.load, hpath, hlocal, hdirectory, huser]
  | nowhere hpath hlocal huser =>
    cases hdirectory : around.places.userDirectory? with
    | none => simp [loaded, Settings.load, hpath, hlocal, hdirectory]
    | some directory =>
      simp [loaded, Settings.load, hpath, hlocal, hdirectory, huser directory hdirectory]

theorem loaded_eq_ok_iff {config : Option String} :
    loaded around config = .ok s ↔ FindsSettings around config s := by
  constructor
  · intro h
    obtain ⟨place, hplace⟩ := exists_looksAt around config
    rw [hplace.loaded_eq] at h
    cases place with
    | none =>
      cases h
      exact .defaults hplace
    | some path =>
      obtain ⟨text, htext, hs⟩ := loadSettingsFile_eq_ok_iff.mp h
      exact .ofText hplace htext hs
  · intro h
    cases h with
    | ofText hplace htext hs =>
      rw [hplace.loaded_eq]
      exact loadSettingsFile_eq_ok_iff.mpr ⟨_, htext, hs⟩
    | defaults hplace => exact hplace.loaded_eq

theorem FindsSettings.unique {config : Option String} {s' : Settings}
    (h : FindsSettings around config s) (h' : FindsSettings around config s') : s = s' :=
  Except.ok.inj ((loaded_eq_ok_iff.mpr h).symm.trans (loaded_eq_ok_iff.mpr h'))

def UnfoldRequest.adjust (r : UnfoldRequest) (s : Settings) : Settings :=
  { s with dialect := r.dialect.getD s.dialect }

theorem loadSettings_eq_ok_iff {s' : Settings} :
    loadSettings around r = .ok s' ↔ ∃ s, FindsSettings around r.config s ∧ r.adjust s = s' := by
  have hload : loadSettings around r = ((loaded around r.config).map r.adjust).mapError
      fun e => "Configuration error: " ++ e.message := by
    unfold loadSettings loaded
    cases r.config with
    | none =>
      dsimp only
      cases Settings.load around.files around.places <;> rfl
    | some path =>
      dsimp only
      cases Settings.loadFile around.files path <;> rfl
  simp only [hload, mapError_eq_ok_iff, map_eq_ok_iff, loaded_eq_ok_iff]

/-- A path leads to the text of a valid document, which is then linked. -/
def HoldsDocument (files : String → Entry) (path : String) (d : Document) : Prop :=
  ∃ text, files path = .text text ∧ Document.load text = .ok d

theorem loadDocumentFile_eq_ok_iff {files : String → Entry} {path : String} :
    Document.loadFile files path = .ok d ↔ HoldsDocument files path d := by
  unfold Document.loadFile HoldsDocument
  cases files path <;> simp [Entry.read, mapError_eq_ok_iff]

theorem loadDocument_eq_ok_iff {path : String} :
    loadDocument around path = .ok d ↔ HoldsDocument around.files path d := by
  rw [loadDocument, mapError_eq_ok_iff, loadDocumentFile_eq_ok_iff]

theorem HoldsDocument.nodup_ids {files : String → Entry} {path : String}
    (h : HoldsDocument files path d) : (d.rules.map (·.id)).Nodup := by
  obtain ⟨text, -, hload⟩ := h
  obtain ⟨stored, -, hvalid, rfl⟩ := Document.load_eq_ok_iff.mp hload
  rw [Document.ids_link]
  exact (Document.validate_eq_ok_iff.mp hvalid).1

theorem HoldsDocument.unique {files : String → Entry} {path : String} {d' : Document}
    (h : HoldsDocument files path d) (h' : HoldsDocument files path d') : d = d' :=
  Except.ok.inj ((loadDocumentFile_eq_ok_iff.mpr h).symm.trans (loadDocumentFile_eq_ok_iff.mpr h'))

end TriplesSql.Command

import Mathlib.Data.List.DropRight
import WireTypes.CommandLine.Command
import WireTypes.Proofs.Document.Json

/-!
# Options from arguments and from a settings file

What a run is asked for can be said by the arguments of `generate` or in a settings file. In a settings file, the
blanks at the ends of the entries of a list do not count, and a directory of nothing but blanks is refused as an
empty one is; arguments are taken as they are.

* `Text.trim_eq_empty_iff`, `listOr_eq_orDefault_iff` : both read a list alike if no entry has a blank at an end;
* `Settings.InFile`, `Options.ofFile_eq` : a JSON file that reads as some settings;
* `Settings.document`, `Settings.inFile_of_written` : all settings can be written down;
* `RunRequest`, `RunRequest.arguments`, `RunRequest.SaidBy` : what a run is asked for, and the two ways to say it;
* `RunRequest.tidied`, `RunRequest.IsTidy` : the request that a settings file stands for, and when that is the same;
* `Options.ofFile_eq_arguments_iff` : the two ways agree exactly then.
-/

namespace WireTypes

open Document

/-! ## Lists -/

theorem Text.trim_eq_empty_iff {s : String} : Text.trim s = "" ↔ Text.isBlankText s = true := by
  have htail := List.dropWhile_idempotent Text.isBlank s.toList
  have hnil : (∀ c ∈ s.toList.dropWhile Text.isBlank, Text.isBlank c = true) ↔
      ∀ c ∈ s.toList, Text.isBlank c = true := by
    rw [← List.dropWhile_eq_nil_iff, htail, List.dropWhile_eq_nil_iff]
  have hrun : Text.dropTail Text.isBlank (s.toList.dropWhile Text.isBlank) =
      (s.toList.dropWhile Text.isBlank).rdropWhile Text.isBlank := rfl
  rw [Text.trim, Text.trimOf, hrun, ← String.toList_inj, String.toList_ofList, String.toList_empty,
    List.rdropWhile_eq_nil_iff, hnil, Text.isBlankText, List.all_eq_true]

/-- The texts that are not empty. -/
def nonEmpty (values : List String) : List String := values.filter fun v => !v.isEmpty

@[simp] theorem mem_nonEmpty {values : List String} {v : String} :
    v ∈ nonEmpty values ↔ v ∈ values ∧ v ≠ "" := by
  simp [nonEmpty]

theorem orDefault_eq (default values : List String) :
    orDefault default values = if nonEmpty values = [] then default else nonEmpty values := by
  unfold orDefault nonEmpty
  split
  · rename_i h
    rw [if_pos h]
  · rename_i hkept
    rw [if_neg hkept]

theorem nonEmpty_map_trim (values : List String) :
    nonEmpty (values.map Text.trim) = nonEmpty ((nonEmpty values).map Text.trim) := by
  induction values with
  | nil => rfl
  | cons v values ih =>
    by_cases hv : v = ""
    · subst hv
      exact ih
    · have hkept : nonEmpty (v :: values) = v :: nonEmpty values := List.filter_cons_of_pos (by simpa using hv)
      rw [hkept, List.map_cons, List.map_cons]
      unfold nonEmpty at ih ⊢
      rw [List.filter_cons, List.filter_cons, ih]

theorem map_trim_eq_iff {values : List String} :
    values.map Text.trim = values ↔ ∀ v ∈ values, Text.trim v = v := by
  have hinj := List.map_inj_left (l := values) (f := Text.trim) (g := id)
  rwa [List.map_id] at hinj

/-- Nothing is lost of a list without empty texts only if all of them are kept. -/
theorem map_trim_of_nonEmpty_eq {kept : List String} (h : nonEmpty (kept.map Text.trim) = kept) :
    kept.map Text.trim = kept := by
  have hsub : (nonEmpty (kept.map Text.trim)).Sublist (kept.map Text.trim) := List.filter_sublist
  have hlength : (nonEmpty (kept.map Text.trim)).length = (kept.map Text.trim).length := by
    rw [h, List.length_map]
  rw [← hsub.eq_of_length hlength, h]

/-- Blanks at the ends of entries make a difference, whatever the default is. -/
theorem listOr_eq_orDefault_iff {default values : List String} (hsome : default ≠ [])
    (hdefault : ∀ v ∈ default, Text.isBlankText v = false) :
    Settings.listOr default values = orDefault default values ↔ ∀ v ∈ values, Text.trim v = v := by
  constructor
  · rw [Settings.listOr, orDefault_eq, orDefault_eq, nonEmpty_map_trim]
    have hall : (nonEmpty values).map Text.trim = nonEmpty values → ∀ v ∈ values, Text.trim v = v := by
      intro h v hv
      by_cases hempty : v = ""
      · subst hempty
        exact Text.trim_eq_empty_iff.mpr rfl
      · exact map_trim_eq_iff.mp h v (mem_nonEmpty.mpr ⟨hv, hempty⟩)
    by_cases hnone : nonEmpty values = []
    · exact fun _ => hall (by rw [hnone]; rfl)
    rw [if_neg hnone]
    split
    · -- Only blanks are given: then they are no default.
      rename_i hblank
      intro heq
      obtain ⟨v, hv⟩ := List.exists_mem_of_ne_nil default hsome
      have hmem : Text.trim v ∈ (nonEmpty values).map Text.trim := List.mem_map_of_mem (heq ▸ hv)
      have hempty : Text.trim v = "" := by
        by_contra hne
        exact List.not_mem_nil (hblank ▸ mem_nonEmpty.mpr ⟨hmem, hne⟩)
      rw [Text.trim_eq_empty_iff, hdefault v hv] at hempty
      cases hempty
    · exact fun heq => hall (map_trim_of_nonEmpty_eq heq)
  · intro h
    rw [Settings.listOr, map_trim_eq_iff.mpr h]

/-! ## Texts -/

theorem nonBlank_some {s : String} (h : Text.isBlankText s = false) : nonBlank (some s) = some s := by
  simp [nonBlank, Option.filter, h]

theorem nonBlank_blank {s : String} (h : Text.isBlankText s = true) : nonBlank (some s) = none := by
  simp [nonBlank, Option.filter, h]

/-! ## Settings files -/

/-- The file at a path is a JSON file that reads as the settings. -/
structure Settings.InFile (s : Settings) (d : Disk) (path : String) : Prop where
  hasFile : d.hasFile path = true
  format : Format.ofPath path = .json
  reads : ∃ text, d.readText? path = some text ∧ Format.json.read Settings.decode text = some s

/-- A text, or null. -/
def optionalText : Option String → Value
  | some s => .text s
  | none => .null

/-- The settings as a document that gives all of them. -/
def Settings.document (s : Settings) : Value :=
  .record [
    (.text "source", optionalText s.source),
    (.text "destination", optionalText s.destination),
    (.text "files", .list (s.files.map .text)),
    (.text "endpoint_base_names", .list (s.endpointBases.map .text)),
    (.text "api_path", optionalText s.apiPath),
    (.text "http_module", optionalText s.httpModule),
    (.text "combine_imports", .bool s.combineImports)]

theorem asOptional_optionalText (s : Option String) : asOptional asText (optionalText s) = some s := by
  cases s <;> rfl

theorem asList_texts (values : List String) : asList asText (.list (values.map .text)) = some values := by
  rw [asList]
  induction values with
  | nil => rfl
  | cons v values ih =>
    rw [List.map_cons, List.mapM_cons, ih]
    rfl

theorem areNumberless_texts (values : List String) : Json.areNumberless (values.map .text) = true := by
  induction values with
  | nil => rfl
  | cons v values ih => exact ih

theorem isNumberless_optionalText (s : Option String) : Json.isNumberless (optionalText s) = true := by
  cases s <;> rfl

theorem Settings.decode_document (s : Settings) : Settings.decode .json s.document = some s := by
  have hfields : ∃ field, Dialect.json.fields fieldNames s.document = some field ∧
      field "source" = some (optionalText s.source) ∧
      field "destination" = some (optionalText s.destination) ∧
      field "files" = some (.list (s.files.map .text)) ∧
      field "endpoint_base_names" = some (.list (s.endpointBases.map .text)) ∧
      field "api_path" = some (optionalText s.apiPath) ∧
      field "http_module" = some (optionalText s.httpModule) ∧
      field "combine_imports" = some (.bool s.combineImports) :=
    ⟨_, rfl, rfl, rfl, rfl, rfl, rfl, rfl, rfl⟩
  obtain ⟨field, hfield, h1, h2, h3, h4, h5, h6, h7⟩ := hfields
  unfold decode
  rw [hfield]
  simp only [h1, h2, h3, h4, h5, h6, h7, Option.bind_eq_bind, Option.bind_some, defaulting, asOptional_optionalText,
    asList_texts, asBool]
  rfl

theorem Settings.isNumberless_document (s : Settings) : Json.isNumberless s.document = true := by
  simp [document, Json.isNumberless, Json.areNumberlessMembers, isNumberless_optionalText, areNumberless_texts]

theorem fromUTF8?_toUTF8 (s : String) : String.fromUTF8? s.toUTF8 = some s := by
  have hvalid : s.toUTF8.IsValidUTF8 := s.isValidUTF8
  rw [String.fromUTF8?, dif_pos hvalid]
  rfl

/-- A file with the written document reads as the settings, whatever texts they hold. -/
theorem Settings.inFile_of_written {s : Settings} {d : Disk} {path : String} (hfile : d.hasFile path = true)
    (hformat : Format.ofPath path = .json) (hread : d.read? path = some (Json.render s.document).toUTF8) :
    s.InFile d path := by
  refine ⟨hfile, hformat, Json.render s.document, ?_, ?_⟩
  · rw [Disk.readText?, hread, Option.bind_some, fromUTF8?_toUTF8]
  · rw [Format.read, Format.parse, Json.parse_render s.isNumberless_document]
    exact s.decode_document

theorem Options.ofFile_eq {s : Settings} {d : Disk} {path : String} (h : s.InFile d path) :
    Options.ofFile d path = s.options := by
  obtain ⟨text, htext, hread⟩ := h.reads
  rw [Options.ofFile, if_pos h.hasFile, htext, h.format, Option.bind_some, hread]

/-! ## Requests -/

/-- What a run is asked for, however it is said. -/
structure RunRequest where
  source : String
  destination : String
  apiPath : Option String := none
  files : List String := []
  classes : List String := []
  httpClient : Bool := false
  combineImports : Bool := false
  deriving Repr, DecidableEq

namespace RunRequest

/-- The request as arguments of `generate`. -/
def arguments (r : RunRequest) : Arguments where
  source := some r.source
  destination := some r.destination
  apiPath := r.apiPath
  files := r.files
  classes := r.classes
  httpClient := r.httpClient
  combineImports := r.combineImports

/-- The HTTP library that is asked for. -/
def httpModule (r : RunRequest) : HttpModule := if r.httpClient then .httpClient else .http

/-- The settings say what is asked for. The HTTP library may be left out if it is the usual one. -/
structure SaidBy (r : RunRequest) (s : Settings) : Prop where
  source : s.source = some r.source
  destination : s.destination = some r.destination
  files : s.files = r.files
  endpointBases : s.endpointBases = r.classes
  apiPath : s.apiPath = r.apiPath
  httpModule : s.httpModule.elim (.ok .http) HttpModule.parse = .ok r.httpModule
  combineImports : s.combineImports = r.combineImports

/-- The request as settings. -/
def settings (r : RunRequest) : Settings where
  source := some r.source
  destination := some r.destination
  files := r.files
  endpointBases := r.classes
  apiPath := r.apiPath
  httpModule := some (if r.httpClient then "HttpClient" else "Http")
  combineImports := r.combineImports

theorem saidBy_settings (r : RunRequest) : r.SaidBy r.settings :=
  ⟨rfl, rfl, rfl, rfl, rfl, by cases h : r.httpClient <;> simp [settings, httpModule, h] <;> decide, rfl⟩

/-- The text without anything, if it is nothing but blanks. -/
def unlessBlank (s : String) : String := if Text.isBlankText s then "" else s

/-- The request without the blanks that a settings file leaves out. -/
def tidied (r : RunRequest) : RunRequest :=
  { r with
    source := unlessBlank r.source
    destination := unlessBlank r.destination
    files := r.files.map Text.trim
    classes := r.classes.map Text.trim }

/-- No blanks that a settings file leaves out make a difference: an empty directory is refused whatever follows. -/
def IsTidy (r : RunRequest) : Prop :=
  r.source = "" ∨ Text.isBlankText r.source = false ∧
    (r.destination = "" ∨ Text.isBlankText r.destination = false ∧
      (∀ v ∈ r.files, Text.trim v = v) ∧ ∀ v ∈ r.classes, Text.trim v = v)

instance (r : RunRequest) : Decidable r.IsTidy :=
  inferInstanceAs <| Decidable <| r.source = "" ∨ Text.isBlankText r.source = false ∧
    (r.destination = "" ∨ Text.isBlankText r.destination = false ∧
      (∀ v ∈ r.files, Text.trim v = v) ∧ ∀ v ∈ r.classes, Text.trim v = v)

/-- The options for the request, with these lists. -/
def withLists (r : RunRequest) (files classes : List String) : Options where
  source := r.source
  destination := r.destination
  files := files
  endpointBases := classes
  apiPath := nonBlank r.apiPath
  httpModule := r.httpModule
  combineImports := r.combineImports

variable {r : RunRequest} {s : Settings}

/-- The patterns and the bases that a run has when no others are given. -/
def standard : Options := {}

theorem options_arguments (r : RunRequest) : r.arguments.options =
    (r.withLists (orDefault standard.files r.files) (orDefault standard.endpointBases r.classes)).validate := rfl

theorem httpModule_of_saidBy (h : r.SaidBy s) :
    nonBlank s.httpModule = none ∧ r.httpModule = .http ∨
      ∃ value, nonBlank s.httpModule = some value ∧ HttpModule.parse value = .ok r.httpModule := by
  have hsaid := h.httpModule
  cases hmodule : s.httpModule with
  | none =>
    rw [hmodule, Option.elim_none] at hsaid
    exact .inl ⟨rfl, (Except.ok.inj hsaid).symm⟩
  | some value =>
    rw [hmodule, Option.elim_some] at hsaid
    have hblank : Text.isBlankText value = false := by
      by_contra hblank
      rw [Bool.not_eq_false, ← Text.trim_eq_empty_iff] at hblank
      rw [HttpModule.parse, hblank] at hsaid
      cases hsaid
    exact .inr ⟨value, nonBlank_some hblank, hsaid⟩

/-- Settings are options as they are said, but for the blanks. -/
theorem options_of_saidBy (h : r.SaidBy s) : s.options =
    if Text.isBlankText r.source then .error .emptySource
    else if Text.isBlankText r.destination then .error .emptyDestination
    else .ok (r.withLists (Settings.listOr standard.files r.files)
      (Settings.listOr standard.endpointBases r.classes)) := by
  unfold Settings.options
  rw [h.source, h.destination, h.files, h.endpointBases, h.apiPath, h.combineImports]
  cases hsource : Text.isBlankText r.source with
  | true =>
    rw [nonBlank_blank hsource]
    rfl
  | false =>
    rw [nonBlank_some hsource]
    cases hdestination : Text.isBlankText r.destination with
    | true =>
      rw [nonBlank_blank hdestination]
      rfl
    | false =>
      rw [nonBlank_some hdestination]
      rcases httpModule_of_saidBy h with ⟨hnone, hmodule⟩ | ⟨value, hvalue, hmodule⟩
      · rw [hnone, withLists, hmodule]
        rfl
      · simp only [hvalue, hmodule]
        rfl

/-! ## Agreement -/

theorem isEmpty_unlessBlank (s : String) : (unlessBlank s).isEmpty = Text.isBlankText s := by
  unfold unlessBlank
  cases hblank : Text.isBlankText s with
  | true => rfl
  | false =>
    have hne : s ≠ "" := by
      rintro rfl
      cases hblank
    simpa using hne

/-- A settings file stands for the arguments without the blanks that it leaves out. -/
theorem options_eq_options_tidied (h : r.SaidBy s) : s.options = r.tidied.arguments.options := by
  rw [options_of_saidBy h, options_arguments, Options.validate]
  have hsource : (r.tidied.withLists (orDefault standard.files r.tidied.files)
      (orDefault standard.endpointBases r.tidied.classes)).source.isEmpty = Text.isBlankText r.source :=
    isEmpty_unlessBlank r.source
  have hdestination : (r.tidied.withLists (orDefault standard.files r.tidied.files)
      (orDefault standard.endpointBases r.tidied.classes)).destination.isEmpty = Text.isBlankText r.destination :=
    isEmpty_unlessBlank r.destination
  rw [hsource, hdestination]
  cases hs : Text.isBlankText r.source with
  | true => rfl
  | false =>
    cases hd : Text.isBlankText r.destination with
    | true => rfl
    | false => simp [withLists, tidied, unlessBlank, hs, hd, Settings.listOr, httpModule]

/-- Nothing but the blanks that are left out tells the two ways apart. -/
theorem options_eq_iff (h : r.SaidBy s) : s.options = r.arguments.options ↔ r.IsTidy := by
  have hfiles := @listOr_eq_orDefault_iff standard.files r.files (by decide) (by decide)
  have hclasses := @listOr_eq_orDefault_iff standard.endpointBases r.classes (by decide) (by decide)
  rw [options_of_saidBy h, options_arguments, Options.validate, IsTidy]
  by_cases hsource : r.source = ""
  · simp [withLists, hsource, Text.isBlankText]
  cases hblank : Text.isBlankText r.source with
  | true =>
    by_cases hdestination : r.destination = "" <;> simp [withLists, hsource, hdestination]
  | false =>
    by_cases hdestination : r.destination = ""
    · simp [withLists, hsource, hdestination, Text.isBlankText]
    cases hblank' : Text.isBlankText r.destination with
    | true => simp [withLists, hsource, hdestination]
    | false =>
      simp [withLists, hsource, hdestination, hfiles, hclasses]

end RunRequest

namespace Options

/-- **Arguments and a settings file agree but for blanks.** A JSON file that says what a run is asked for stands for
the arguments without the blanks at the ends of entries, and with directories of nothing but blanks empty; so it
stands for the arguments themselves exactly if none of these blanks are there, or an empty directory comes first. -/
theorem ofFile_eq_arguments_iff {r : RunRequest} {s : Settings} {d : Disk} {path : String} (hfile : s.InFile d path)
    (hsaid : r.SaidBy s) :
    ofFile d path = (Command.generate r.tidied.arguments).options d ∧
      (ofFile d path = (Command.generate r.arguments).options d ↔ r.IsTidy) := by
  rw [ofFile_eq hfile]
  exact ⟨r.options_eq_options_tidied hsaid, r.options_eq_iff hsaid⟩

/-- A second base behind a comma and a blank. -/
def spacedRequest : RunRequest where
  source := "src"
  destination := "out"
  classes := ["ApiController", " HubController"]

/-- The request in a settings file. -/
def settingsDisk : Disk where
  workDir := []
  entries := [([⟨"settings.json", by decide +kernel⟩],
    .file (Document.Json.render spacedRequest.settings.document).toUTF8)]

theorem inFile_spacedRequest : spacedRequest.settings.InFile settingsDisk "settings.json" :=
  Settings.inFile_of_written (by decide +kernel) (by decide +kernel) rfl

theorem ofFile_eq_arguments_iff_spacedRequest :
    let r := spacedRequest
    r.settings.InFile settingsDisk "settings.json" ∧ r.SaidBy r.settings ∧ ¬r.IsTidy ∧
      ofFile settingsDisk "settings.json" = (Command.generate r.tidied.arguments).options settingsDisk ∧
      (ofFile settingsDisk "settings.json" = (Command.generate r.arguments).options settingsDisk ↔ r.IsTidy) :=
  have hagree := ofFile_eq_arguments_iff inFile_spacedRequest spacedRequest.saidBy_settings
  ⟨inFile_spacedRequest, spacedRequest.saidBy_settings, by decide +kernel, hagree⟩

/-- The settings file asks for two bases, the arguments for one and for a name that no base has. -/
theorem options_of_spacedRequest :
    let r := spacedRequest
    let standard : Options := { source := "src", destination := "out" }
    r.settings.InFile settingsDisk "settings.json" ∧ r.SaidBy r.settings ∧
      ofFile settingsDisk "settings.json" =
        .ok { standard with endpointBases := ["ApiController", "HubController"] } ∧
      (Command.generate r.arguments).options settingsDisk =
        .ok { standard with endpointBases := ["ApiController", " HubController"] } :=
  ⟨inFile_spacedRequest, spacedRequest.saidBy_settings,
    (ofFile_eq inFile_spacedRequest).trans (by decide +kernel), by decide +kernel⟩

end Options

end WireTypes

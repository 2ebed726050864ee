import WireTypes.Proofs.Output.Assignment
import WireTypes.Proofs.Output.References

/-!
# Identifiers that generated files share

Names are given out so that no two files are called alike. The words that generated files bring with them, those of
the framework and the types of the client's own, are no names of files, and so they are not kept free: a model is
called like one of them if it is the first that wants to be. Nothing else makes an identifier ambiguous.

* `mem_takenAfter_iff`, `freeName_eq_word_iff` : a word without an underscore is given out only to who wants it;
* `OutputNames.FirstCalled`, `nameOf_eq_word_iff` : the model that is called like a word;
* `Classification.word?`, `word?_classify` : a type that shows no model is written with a word of the client;
* `HttpModule.importedNames_eq`, `service_infix_of_lookup` : the words of the framework, and the names of services;
* `identifiers_of_run` : which identifiers of a file are distinct.
-/

namespace WireTypes

/-! ## Words that are given out -/

/-- What numbers are put behind is told apart from a word by the underscore. -/
theorem toLower_ne_numbered {word : String} (hword : '_' ∉ (Text.toLower word).toList) (name : String) (i : Nat) :
    Text.toLower (numbered name i) ≠ Text.toLower word := by
  obtain ⟨low, hlow⟩ := toLower_numbered name i
  intro heq
  rw [← heq, hlow] at hword
  exact hword (List.mem_append_right _ List.mem_cons_self)

theorem mem_takenAfter_iff {word : String} (hword : '_' ∉ (Text.toLower word).toList) {taken names : List String} :
    Text.toLower word ∈ takenAfter taken names ↔
      Text.toLower word ∈ taken ∨ ∃ name ∈ names, Text.toLower name = Text.toLower word := by
  induction names generalizing taken with
  | nil => simp [takenAfter, allot]
  | cons name names ih =>
    rw [takenAfter_cons, ih, List.mem_cons, List.exists_mem_cons_iff, ← or_assoc]
    refine or_congr_left ?_
    rcases (firstFree_freeName taken name).first with hgiven | ⟨htaken, i, -, hgiven, -⟩
    · rw [hgiven, or_comm, eq_comm]
    · -- Another has the name already, and what is given out instead is no word.
      have hne := toLower_ne_numbered hword name i
      rw [hgiven]
      constructor
      · rintro (heq | hmem)
        · exact absurd heq.symm hne
        · exact .inl hmem
      · rintro (hmem | heq)
        · exact .inr hmem
        · exact .inr (heq ▸ htaken)

theorem freeName_eq_word_iff {word : String} (hword : '_' ∉ (Text.toLower word).toList) {taken : List String}
    {name : String} : freeName taken name = word ↔ name = word ∧ Text.toLower word ∉ taken := by
  have hfirst := firstFree_freeName taken name
  constructor
  · rintro rfl
    rcases hfirst.first with hgiven | ⟨-, i, -, hgiven, -⟩
    · exact ⟨hgiven.symm, hfirst.free⟩
    · exact absurd (congrArg Text.toLower hgiven.symm) (toLower_ne_numbered hword name i)
  · rintro ⟨rfl, hfree⟩
    rcases hfirst.first with hgiven | ⟨htaken, -⟩
    · exact hgiven
    · exact absurd htaken hfree

namespace OutputNames

/-- Of the models that are called like the word up to case, this is the first, and it is called exactly so. -/
structure FirstCalled (models : ModelSet) (word : String) (id : TypeId) : Prop where
  mem : id ∈ models
  simpleName : id.simpleName = word
  first : ∀ a ∈ models, compare a id = .lt → Text.toLower a.simpleName ≠ Text.toLower word

variable {models : ModelSet} {endpoints : List ClassifiedEndpoint} {withServices : Bool}

theorem nameOf_eq_word_iff {word : String} (hword : '_' ∉ (Text.toLower word).toList)
    (hindex : Text.toLower word ≠ indexName) {id : TypeId} (hid : id ∈ models) :
    (assign models endpoints withServices).models.nameOf id = word ↔ FirstCalled models word id := by
  obtain ⟨before, after, hsplit, -, hbefore⟩ := exists_split_of_mem hid
  have hlookup : (assign models endpoints withServices).models.lookup id = _ := lookup_models_of_split hsplit
  rw [NameTable.nameOf, hlookup, Option.getD_some, freeName_eq_word_iff hword, mem_takenAfter_iff hword]
  have htaken : (Text.toLower word ∈ [indexName] ∨
      ∃ name ∈ before.map (·.simpleName), Text.toLower name = Text.toLower word) ↔
      ∃ a ∈ models, compare a id = .lt ∧ Text.toLower a.simpleName = Text.toLower word := by
    simp [hindex, hbefore, and_assoc]
  rw [htaken]
  constructor
  · rintro ⟨hname, hfree⟩
    exact ⟨hid, hname, fun a ha hlt heq => hfree ⟨a, ha, hlt, heq⟩⟩
  · intro h
    refine ⟨h.simpleName, ?_⟩
    rintro ⟨a, ha, hlt, heq⟩
    exact h.first a ha hlt heq

end OutputNames

/-! ## Words of the client -/

/-- The types of the client's own. -/
def clientWords : List String := ["number", "boolean", "string", "Date", "void", untypedText]

namespace Classification

/-- The word that a type is written with, if it is written and shows no model. -/
def word? : Classification → Option String
  | .builtin target => some target
  | .collection element => element.word?
  | .untyped => some untypedText
  | .keyValueMap _ => some untypedText
  | .unsupported _ _ => some untypedText
  | .unresolved _ => some untypedText
  | .model _ => none
  | .constructed _ _ => none
  | .ignored => none

theorem typeText_of_word? {word : String} : ∀ {t : Classification}, t.word? = some word →
    ∃ depth, ∀ nameOf, t.typeText nameOf = some (word ++ brackets depth)
  | .collection element, h => by
    obtain ⟨depth, htext⟩ := typeText_of_word? (t := element) h
    exact ⟨depth + 1, fun nameOf => by rw [typeText, htext, Option.map_some, String.append_assoc, brackets]⟩
  | .builtin _, h => ⟨0, fun _ => h.trans (by rw [brackets, String.append_empty])⟩
  | .untyped, h => ⟨0, fun _ => h.trans (by rw [brackets, String.append_empty])⟩
  | .keyValueMap _, h => ⟨0, fun _ => h.trans (by rw [brackets, String.append_empty])⟩
  | .unsupported _ _, h => ⟨0, fun _ => h.trans (by rw [brackets, String.append_empty])⟩
  | .unresolved _, h => ⟨0, fun _ => h.trans (by rw [brackets, String.append_empty])⟩

theorem exists_word? : ∀ {t : Classification}, t.renderedModel? = none → t.isWritten = true →
    ∃ word, t.word? = some word
  | .collection element, h, hw => exists_word? (t := element) h hw
  | .builtin _, _, _ => ⟨_, rfl⟩
  | .untyped, _, _ => ⟨_, rfl⟩
  | .keyValueMap _, _, _ => ⟨_, rfl⟩
  | .unsupported _ _, _, _ => ⟨_, rfl⟩
  | .unresolved _, _, _ => ⟨_, rfl⟩

theorem word?_collectionOf (t : Classification) : t.collectionOf.word? = t.word? := by
  cases t <;> rfl

end Classification

namespace Catalog

theorem target?_mem_clientWords {b : Builtin} {target : String} (h : b.target? = some target) :
    target ∈ clientWords := by
  have hall : ∀ b : Builtin, ∀ target ∈ b.target?, target ∈ clientWords := by
    intro b
    cases b <;> decide
  exact hall b target h

theorem untypedText_mem_clientWords : untypedText ∈ clientWords := by decide

/-- The words that types are written with are few. -/
theorem word?_classify {c : Catalog} {word : String} : ∀ d : Descriptor,
    (c.classify d).word? = some word → word ∈ clientWords
  | .declared id => fun h => by
    rw [classify] at h
    split at h <;> cases h
  | .constructed id args => fun h => by
    rw [classify] at h
    split at h <;> cases h
  | .builtin b => fun h => by
    rw [classify] at h
    split at h
    · rename_i target htarget
      exact Option.some.inj h ▸ target?_mem_clientWords htarget
    · exact Option.some.inj h ▸ untypedText_mem_clientWords
  | .array element => fun h => by
    by_cases hbyte : element = .builtin .byte
    · subst hbyte
      exact Option.some.inj h ▸ (by decide)
    · rw [classify, Classification.word?_collectionOf] at h
      · exact word?_classify element h
      · exact hbyte
  | .generic name [arg] => fun h => by
    simp only [classify, classifyAll] at h
    split at h
    · exact Option.some.inj h ▸ untypedText_mem_clientWords
    split at h
    · rw [Classification.word?_collectionOf] at h
      exact word?_classify arg h
    · exact word?_classify arg h
  | .generic name [] => fun h => by
    simp only [classify, classifyAll] at h
    split at h <;> exact Option.some.inj h ▸ untypedText_mem_clientWords
  | .generic name (first :: second :: args) => fun h => by
    simp only [classify, classifyAll] at h
    split at h <;> exact Option.some.inj h ▸ untypedText_mem_clientWords
  | .unresolved name => fun h => Option.some.inj h ▸ untypedText_mem_clientWords

/-- A type that shows no model is written with a word of the client, however models are named. -/
theorem exists_clientWord (c : Catalog) {d : Descriptor} (h : (c.classify d).renderedModel? = none)
    (hw : (c.classify d).isWritten = true) :
    ∃ word ∈ clientWords, ∃ depth, ∀ nameOf, (c.classify d).typeText nameOf = some (word ++ brackets depth) := by
  obtain ⟨word, hword⟩ := Classification.exists_word? h hw
  exact ⟨word, word?_classify d hword, Classification.typeText_of_word? hword⟩

end Catalog

/-! ## Words of the framework -/

/-- The names that an import takes, those between its braces. -/
def importedBy (line : String) : List String :=
  match line.toList.dropWhile (· != '\x7b') with
  | [] => []
  | _ :: inner =>
    ((inner.takeWhile (· != '\x7d')).splitOn ',').map fun name => Text.trim (String.ofList name)

theorem HttpModule.importedNames_eq (module : HttpModule) :
    module.imports.flatMap importedBy = module.importedNames := by
  cases module <;> decide +kernel

/-- The words that no name is kept apart from. -/
def HttpModule.words (module : HttpModule) : List String := module.importedNames ++ clientWords

theorem plain_words {module : HttpModule} {word : String} (h : word ∈ module.words) :
    '_' ∉ (Text.toLower word).toList ∧ Text.toLower word ≠ indexName := by
  have hall : ∀ word ∈ module.words, '_' ∉ (Text.toLower word).toList ∧ Text.toLower word ≠ indexName := by
    cases module <;> decide +kernel
  exact hall word h

/-! ## Services -/

/-- What all names of services hold. -/
def serviceWord : String := "Service"

theorem service_infix_numbered (name : String) (i : Nat) (h : serviceWord.toList <:+: name.toList) :
    serviceWord.toList <:+: (numbered name i).toList := by
  rw [numbered, String.toList_append, String.toList_append, List.append_assoc]
  exact h.trans (List.prefix_append _ _).isInfix

theorem service_infix_serviceName (endpoint : String) : serviceWord.toList <:+: (serviceName endpoint).toList := by
  rw [serviceName, String.toList_append]
  exact (List.suffix_append _ _).isInfix

theorem service_not_infix_framework {module : HttpModule} {word : String} (h : word ∈ module.importedNames) :
    ¬serviceWord.toList <:+: word.toList := by
  have hall : ∀ word ∈ module.importedNames, ¬serviceWord.toList <:+: word.toList := by
    cases module <;> decide +kernel
  exact hall word h

theorem OutputNames.service_infix_of_lookup {models : ModelSet} {endpoints : List ClassifiedEndpoint}
    {withServices : Bool} {id : TypeId} {n : String}
    (h : (assign models endpoints withServices).services.lookup id = some n) :
    serviceWord.toList <:+: n.toList := by
  rw [services_assign] at h
  refine forall_mem_allot (p := fun name => serviceWord.toList <:+: name.toList) service_infix_numbered ?_ n
    (mem_of_lookup_zip h)
  rintro name hname
  obtain ⟨e, -, rfl⟩ := List.mem_map.mp hname
  exact service_infix_serviceName _

/-! ## Files of services -/

/-- The identifiers of a service: what it imports from the framework and of the models, and its own. -/
structure OutputPlan.ServiceIdentifiers (file : OutputFile) (module : HttpModule) (combined : Bool)
    (imports : OrderedSet String) : Prop where
  text : ∃ methods, file.text = serviceText module file.name (importLines imports combined) methods
  framework : (module.importedNames ++ [file.name]).Nodup
  models : (imports.toList ++ [file.name]).Nodup
  all_iff : (module.importedNames ++ imports.toList ++ [file.name]).Nodup ↔ ∀ n ∈ imports, n ∉ module.importedNames

theorem nodup_identifiers_iff {framework models : List String} {own : String} (hframework : (framework ++ [own]).Nodup)
    (hmodels : (models ++ [own]).Nodup) :
    (framework ++ models ++ [own]).Nodup ↔ ∀ n ∈ models, n ∉ framework := by
  obtain ⟨hf, hown, hfresh⟩ := List.nodup_append.mp hframework
  rw [List.append_assoc, List.nodup_append]
  constructor
  · intro h n hn hmem
    exact h.2.2 n hmem n (List.mem_append_left _ hn) rfl
  · refine fun h => ⟨hf, hmodels, ?_⟩
    rintro word hword n hn rfl
    rcases List.mem_append.mp hn with hn | hn
    · exact h word hn hword
    · exact hfresh word hword word hn rfl

theorem serviceIdentifiers_of_mem {c : Catalog} {configured : List String} {apiPath : Option String}
    {module : HttpModule} {combined : Bool} {file : OutputFile}
    (hfile : file ∈ (OutputPlan.make c (TypeGraph.build c configured) apiPath module combined).services) :
    let graph := TypeGraph.build c configured
    let nameOf := (OutputNames.assign graph.models graph.endpoints apiPath.isSome).models.nameOf
    ∃ path e, apiPath = some path ∧ e ∈ graph.endpoints ∧
      OutputPlan.ServiceIdentifiers file module combined (serviceImports nameOf path e) := by
  intro graph nameOf
  obtain ⟨path, hpath, e, he, hlookup, heq⟩ := mem_services hfile
  have hservice := OutputNames.service_infix_of_lookup hlookup
  have hframework : (module.importedNames ++ [file.name]).Nodup := by
    rw [List.nodup_append]
    refine ⟨by cases module <;> decide, List.nodup_singleton _, ?_⟩
    rintro word hword n hn rfl
    rw [List.mem_singleton.mp hn] at hword
    exact service_not_infix_framework hword hservice
  have hmodels : ((serviceImports nameOf path e).toList ++ [file.name]).Nodup := by
    rw [List.nodup_append]
    refine ⟨OrderedSet.nodup _, List.nodup_singleton _, ?_⟩
    rintro name hname n hn rfl
    obtain ⟨m, hm, hnameOf⟩ := ClassifiedEndpoint.mem_serviceImports.mp hname
    have hmem : m ∈ graph.models := mem_models_of_service he (ClassifiedEndpoint.serviceShows_iff.mp hm)
    exact OutputNames.nameOf_ne_service hmem hlookup (hnameOf.trans (List.mem_singleton.mp hn))
  refine ⟨path, e, hpath, he, ⟨_, congrArg OutputFile.text heq⟩, hframework, hmodels, ?_⟩
  exact nodup_identifiers_iff hframework hmodels

/-! ## Files of a run -/

/-- **Identifiers are distinct but for models called like a word.** In the file of a service, the words of the
framework and the service itself are distinct, and so are the imported models and the service; all of them are
distinct exactly if no imported model is called like a word of the framework. A type that shows no model is written
with a word of the client, whatever the names of models are. A model is called like one of these words exactly if it
is the first that is called so up to case and is called exactly so. -/
theorem identifiers_of_run (c : Catalog) (configured : List String) (apiPath : Option String) (module : HttpModule)
    (combined : Bool) :
    let graph := TypeGraph.build c configured
    let nameOf := (OutputNames.assign graph.models graph.endpoints apiPath.isSome).models.nameOf
    module.imports.flatMap importedBy = module.importedNames ∧
    (∀ file ∈ (OutputPlan.make c graph apiPath module combined).services, ∃ path e,
      apiPath = some path ∧ e ∈ graph.endpoints ∧
        OutputPlan.ServiceIdentifiers file module combined (serviceImports nameOf path e)) ∧
    (∀ d, (c.classify d).renderedModel? = none → (c.classify d).isWritten = true →
      ∃ word ∈ clientWords, ∃ depth, ∀ naming, (c.classify d).typeText naming = some (word ++ brackets depth)) ∧
    ∀ word ∈ module.words, ∀ id ∈ graph.models,
      nameOf id = word ↔ OutputNames.FirstCalled graph.models word id := by
  intro graph nameOf
  refine ⟨module.importedNames_eq, fun file hfile => serviceIdentifiers_of_mem hfile,
    fun d h hw => c.exists_clientWord h hw, fun word hword id hid => ?_⟩
  obtain ⟨hplain, hindex⟩ := plain_words hword
  exact OutputNames.nameOf_eq_word_iff hplain hindex hid

/-- A module with a response and a date of its own, both returned by an endpoint. -/
def responseShop : Catalog :=
  .ofModules [{
    name := "Shop"
    types := [
      { name := "Shop.OrdersController"
        base := some "ApiController"
        methods := [
          { name := "GetResponse", returns := some "Response" },
          { name := "GetDate", returns := some "Shop.Date", parameters := [⟨"since", "DateTime"⟩] }] },
      { name := "Shop.Response" },
      { name := "Shop.Date" }] }]

/-- Its service imports two things called `Response`, and writes dates of the client with the name of its own. -/
theorem identifiers_responseShop :
    let graph := TypeGraph.build responseShop []
    let nameOf := (OutputNames.assign graph.models graph.endpoints true).models.nameOf
    let date : TypeId := ⟨"Shop", "Shop.Date"⟩
    (OutputPlan.make responseShop graph (some "api") .http false).services =
        graph.endpoints.map (serviceFile ⟨"api", .http, false⟩ nameOf "OrdersService") ∧
      graph.endpoints.map (fun e => (serviceImports nameOf "api" e).toList) = [["Date", "Response"]] ∧
      ¬(HttpModule.http.importedNames ++ ["Date", "Response"] ++ ["OrdersService"]).Nodup ∧
      date ∈ graph.models ∧ (responseShop.classify (.builtin .dateTime)).typeText nameOf = some (nameOf date) := by
  decide +kernel

end WireTypes

import WireTypes.Metadata.Codec
import WireTypes.Proofs.Document.Records

/-!
# Encoded modules are read back

A document may leave out what has a default, give a record as the list of its fields, and hold members that nobody
reads. Whatever it is that a module was read from, its encoding is read as the same module.

* `Annotation.restores`, `TypeKind.lookup_spellings`, `Verb.lookup_spellings` : annotations, kinds and verbs by name;
* `MethodDecl.layout`, `TypeDecl.layout`, `ModuleDecl.layout` : the fields that an encoding gives, in order;
* `PropertyDecl.restores`, …, `ModuleDecl.restores` : each kind of record is restored, from the inside out;
* `ModuleDecl.decode_encode` : so are modules, in records that give every list.
-/

namespace WireTypes

open Document

/-! ## Names -/

namespace Annotation

/-- An annotation that was read from a name is read from its own name again. -/
theorem ofName_name_ofName (name : String) : ofName (ofName name).name = ofName name := by
  unfold ofName
  split
  · rfl
  · rename_i hother
    exact if_neg hother

theorem restores : Restores decode fun a => .text a.name := by
  intro v a h
  obtain ⟨name, -, rfl⟩ := Option.map_eq_some_iff.mp h
  exact congrArg some (ofName_name_ofName name)

end Annotation

theorem Verb.lookup_spellings (v : Verb) : Verb.spellings.lookup v.name = some v := by
  cases v <;> decide

theorem TypeKind.lookup_spellings (k : TypeKind) : TypeKind.spellings.lookup k.name = some k := by
  cases k <;> decide

/-! ## Layouts -/

/-- The fields of a method, in order. -/
def MethodDecl.layout (f : MethodDecl) : List (String × Option Value) := [
  ("name", some (.text f.name)),
  ("returns", f.returns.map .text),
  ("parameters", some (.list (f.parameters.map ParameterDecl.encode))),
  ("verb", f.verb.map fun v => .text v.name),
  ("route", f.route.map .text)]

theorem MethodDecl.encode_eq : MethodDecl.encode = fun f => recordOf f.layout := by
  funext ⟨name, returns, parameters, verb, route⟩
  cases returns <;> cases verb <;> cases route <;> rfl

/-- The fields of a type, in order. -/
def TypeDecl.layout (t : TypeDecl) : List (String × Option Value) := [
  ("name", some (.text t.name)),
  ("kind", some (.text t.kind.name)),
  ("base", t.base.map .text),
  ("interfaces", some (.list (t.interfaces.map .text))),
  ("properties", some (.list (t.properties.map PropertyDecl.encode))),
  ("methods", some (.list (t.methods.map MethodDecl.encode))),
  ("annotations", some (.list (t.annotations.map fun a => .text a.name))),
  ("values", some (.list (t.values.map EnumMember.encode)))]

theorem MethodDecl.memberNames_encode (f : MethodDecl) :
    memberNames f.encode = ["name"] ++ (f.returns.map fun _ => "returns").toList ++ ["parameters"] ++
      (f.verb.map fun _ => "verb").toList ++ (f.route.map fun _ => "route").toList := by
  rw [MethodDecl.encode_eq, memberNames_recordOf]
  obtain ⟨name, returns, parameters, verb, route⟩ := f
  cases returns <;> cases verb <;> cases route <;> rfl

theorem TypeDecl.encode_eq : TypeDecl.encode = fun t => recordOf t.layout := by
  funext t
  have hannotations : encodeTexts (t.annotations.map Annotation.name) =
      .list (t.annotations.map fun a => .text a.name) := by
    rw [encodeTexts, List.map_map]
    rfl
  rw [TypeDecl.encode, hannotations]
  obtain ⟨name, kind, base⟩ := t
  cases base <;> rfl

theorem TypeDecl.memberNames_encode (t : TypeDecl) :
    memberNames t.encode = ["name", "kind"] ++ (t.base.map fun _ => "base").toList ++
      ["interfaces", "properties", "methods", "annotations", "values"] := by
  rw [TypeDecl.encode_eq, memberNames_recordOf]
  obtain ⟨name, kind, base⟩ := t
  cases base <;> rfl

/-- The fields of a module, in order. -/
def ModuleDecl.layout (m : ModuleDecl) : List (String × Option Value) := [
  ("name", some (.text m.name)),
  ("references", some (.list (m.references.map .text))),
  ("types", some (.list (m.types.map TypeDecl.encode)))]

/-! ## Records -/

theorem PropertyDecl.restores (d : Dialect) : Restores (PropertyDecl.decode d) PropertyDecl.encode :=
  restores_pair d (by decide) restores_text restores_text PropertyDecl.mk name type (fun _ _ => rfl) fun _ _ => rfl

theorem ParameterDecl.restores (d : Dialect) : Restores (ParameterDecl.decode d) ParameterDecl.encode :=
  restores_pair d (by decide) restores_text restores_text ParameterDecl.mk name type (fun _ _ => rfl) fun _ _ => rfl

theorem EnumMember.restores (d : Dialect) : Restores (EnumMember.decode d) EnumMember.encode :=
  restores_pair d (by decide) restores_text restores_int64 EnumMember.mk name value (fun _ _ => rfl) fun _ _ => rfl

theorem MethodDecl.restores (d : Dialect) : Restores (MethodDecl.decode d) MethodDecl.encode := by
  rw [MethodDecl.encode_eq]
  refine restores_record d (fun _ => by simp [MethodDecl.layout]) fun field f h => ?_
  simp only [Option.bind_eq_bind, Option.bind_eq_some_iff] at h ⊢
  obtain ⟨name, hname, returns, hreturns, parameters, hparameters, verb, hverb, route, hroute, heq⟩ := h
  cases heq
  exact ⟨_, restores_text.required _ _ hname,
    _, restores_text.optional (fun s => ⟨s, rfl⟩) _ _ hreturns,
    _, (ParameterDecl.restores d).list.defaulting rfl _ _ hparameters,
    _, (restores_variant d Verb.lookup_spellings).optional (fun v => ⟨v.name, rfl⟩) _ _ hverb,
    _, restores_text.optional (fun s => ⟨s, rfl⟩) _ _ hroute, rfl⟩

theorem TypeDecl.restores (d : Dialect) : Restores (TypeDecl.decode d) TypeDecl.encode := by
  rw [TypeDecl.encode_eq]
  refine restores_record d (fun _ => by simp [TypeDecl.layout]) fun field t h => ?_
  simp only [Option.bind_eq_bind, Option.bind_eq_some_iff] at h ⊢
  obtain ⟨name, hname, kind, hkind, base, hbase, interfaces, hinterfaces, properties, hproperties,
    methods, hmethods, annotations, hannotations, values, hvalues, heq⟩ := h
  cases heq
  exact ⟨_, restores_text.required _ _ hname,
    _, (restores_variant d TypeKind.lookup_spellings).defaulting rfl _ _ hkind,
    _, restores_text.optional (fun s => ⟨s, rfl⟩) _ _ hbase,
    _, restores_text.list.defaulting rfl _ _ hinterfaces,
    _, (PropertyDecl.restores d).list.defaulting rfl _ _ hproperties,
    _, (MethodDecl.restores d).list.defaulting rfl _ _ hmethods,
    _, Annotation.restores.list.defaulting rfl _ _ hannotations,
    _, (EnumMember.restores d).list.defaulting rfl _ _ hvalues, rfl⟩

theorem ModuleDecl.restores (d : Dialect) : Restores (ModuleDecl.decode d) ModuleDecl.encode := by
  show Restores (ModuleDecl.decode d) fun m => recordOf m.layout
  refine restores_record d (fun _ => by simp [ModuleDecl.layout]) fun field m h => ?_
  simp only [Option.bind_eq_bind, Option.bind_eq_some_iff] at h ⊢
  obtain ⟨name, hname, references, hreferences, types, htypes, heq⟩ := h
  cases heq
  exact ⟨_, restores_text.required _ _ hname,
    _, restores_text.list.defaulting rfl _ _ hreferences,
    _, (TypeDecl.restores d).list.defaulting rfl _ _ htypes, rfl⟩

/-! ## Modules -/

/-- **Decoding, encoding and decoding again gives the module that was decoded.** An encoding gives every list, an
empty one too; of the other fields it leaves out a base, a return type, a verb or a route that is not there. -/
theorem ModuleDecl.decode_encode {v : Value} {m : ModuleDecl} (h : ModuleDecl.decode .json v = some m) :
    ModuleDecl.decode .json m.encode = some m ∧
      memberNames m.encode = ["name", "references", "types"] ∧
      ∀ t ∈ m.types,
        memberNames t.encode = ["name", "kind"] ++ (t.base.map fun _ => "base").toList ++
          ["interfaces", "properties", "methods", "annotations", "values"] ∧
        ∀ f ∈ t.methods,
          memberNames f.encode = ["name"] ++ (f.returns.map fun _ => "returns").toList ++ ["parameters"] ++
            (f.verb.map fun _ => "verb").toList ++ (f.route.map fun _ => "route").toList :=
  ⟨ModuleDecl.restores .json v m h, rfl, fun t _ => ⟨t.memberNames_encode, fun f _ => f.memberNames_encode⟩⟩

/-- A module that is written as the list of its fields, as are one of its types, a member and a property. -/
def listedShop : Value :=
  .list [.text "Shop", .list [], .list [
    .list [.text "Shop.Size", .text "enum", .null, .list [], .list [], .list [],
      .list [.text ignoreMarker, .text "Acme.GenerationIgnore"], .list [.list [.text "Least", .integer Int64.minValue.toInt]]],
    .record [
      (.text "name", .text "Shop.OrdersController"),
      (.text "base", .text "ApiController"),
      (.text "properties", .list [.list [.text "Size", .text "Size"]]),
      (.text "methods", .list [.record [
        (.text "name", .text "Resize"),
        (.text "verb", .record [(.text "PATCH", .null)]),
        (.text "parameters", .list [.list [.text "size", .text "Size"]]),
        (.text "obsolete", .bool true)]])]]]

theorem decode_encode_listedShop :
    let m : ModuleDecl := {
      name := "Shop"
      types := [
        { name := "Shop.Size"
          kind := .enum
          annotations := [.generationIgnore, .other "Acme.GenerationIgnore"]
          values := [⟨"Least", Int64.minValue⟩] },
        { name := "Shop.OrdersController"
          base := some "ApiController"
          properties := [⟨"Size", "Size"⟩]
          methods := [{ name := "Resize", parameters := [⟨"size", "Size"⟩], verb := some .patch }] }] }
    ModuleDecl.decode .json listedShop = some m ∧ ModuleDecl.decode .json m.encode = some m := by
  intro m
  have hread : ModuleDecl.decode .json listedShop = some m := by decide +kernel
  exact ⟨hread, (ModuleDecl.decode_encode hread).1⟩

end WireTypes

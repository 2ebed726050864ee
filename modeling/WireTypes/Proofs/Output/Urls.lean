import Mathlib.Data.List.Chain
import WireTypes.Output.Request
import WireTypes.Proofs.Text.Slashes

/-!
# How URLs are joined

The URL of a method consists of the API path, the stem of the endpoint and a last part, with single slashes between
them. Slashes at the end of the API path and at both ends of the route are taken off first. An API path of slashes alone
loses the one that roots it with them, so that the URL is relative, as it is for an empty path.

* `Rooted`, `StartsFlush`, `EndsFlush`, `IsUrlSegment` : texts by the slashes in them;
* `ApiPart`, `LastPart`, `JoinedOnce` : the parts of a URL, and how they are joined;
* `apiPart_apiPart?`, `lastPart_routeOrName`, `methodUrl_eq_joinParts` : the parts that a URL has;
* `methodUrl_joined` : what becomes of the slashes at their ends.
-/

namespace WireTypes

/-! ## Slashes -/

/-- The text starts with a slash. -/
def Rooted (s : String) : Prop := '/' ∈ s.toList.head?

/-- The text starts with something other than a slash. -/
def StartsFlush (s : String) : Prop := ∃ c ∈ s.toList.head?, c ≠ '/'

/-- The text ends in something other than a slash. -/
def EndsFlush (s : String) : Prop := ∃ c ∈ s.toList.getLast?, c ≠ '/'

/-- A text that may stand between two slashes. -/
structure IsUrlSegment (s : String) : Prop where
  ne_empty : s ≠ ""
  no_slash : '/' ∉ s.toList

/-- What follows the last slash of a URL. -/
def lastUrlSegment (url : String) : String := String.ofList (url.toList.rtakeWhile (· ≠ '/'))

theorem startsFlush_of_ne_empty {s : String} (hne : s ≠ "") (h : ∀ c ∈ s.toList.head?, c ≠ '/') : StartsFlush s :=
  have hhead := List.head?_eq_some_head (mt String.toList_eq_nil_iff.mp hne)
  ⟨_, hhead, h _ hhead⟩

theorem endsFlush_of_ne_empty {s : String} (hne : s ≠ "") (h : ∀ c ∈ s.toList.getLast?, c ≠ '/') : EndsFlush s :=
  have hlast := List.getLast?_eq_some_getLast (mt String.toList_eq_nil_iff.mp hne)
  ⟨_, hlast, h _ hlast⟩

theorem IsUrlSegment.startsFlush {s : String} (h : IsUrlSegment s) : StartsFlush s := by
  refine startsFlush_of_ne_empty h.ne_empty ?_
  rintro c hc rfl
  exact h.no_slash (List.mem_of_mem_head? hc)

theorem IsUrlSegment.endsFlush {s : String} (h : IsUrlSegment s) : EndsFlush s := by
  refine endsFlush_of_ne_empty h.ne_empty ?_
  rintro c hc rfl
  exact h.no_slash (List.mem_of_mem_getLast? hc)

theorem EndsFlush.not_allSlashes {s : String} (h : EndsFlush s) : ¬AllSlashes s := by
  obtain ⟨c, hc, hne⟩ := h
  exact fun hall => hne (hall c (List.mem_of_mem_getLast? hc))

theorem StartsFlush.not_rooted {s : String} (h : StartsFlush s) : ¬Rooted s := by
  obtain ⟨c, hc, hne⟩ := h
  exact fun hrooted => hne (Option.mem_unique hc hrooted)

theorem StartsFlush.append {s : String} (h : StartsFlush s) (s' : String) : StartsFlush (s ++ s') := by
  obtain ⟨c, hc, hne⟩ := h
  exact ⟨c, by rw [String.toList_append, List.head?_append, Option.mem_def.mp hc]; rfl, hne⟩

theorem EndsFlush.append {s' : String} (h : EndsFlush s') (s : String) : EndsFlush (s ++ s') := by
  obtain ⟨c, hc, hne⟩ := h
  exact ⟨c, by rw [String.toList_append, List.getLast?_append, Option.mem_def.mp hc]; rfl, hne⟩

theorem rooted_append_iff {s : String} (h : s ≠ "") (s' : String) : Rooted (s ++ s') ↔ Rooted s := by
  have hne : s.toList ≠ [] := mt String.toList_eq_nil_iff.mp h
  rw [Rooted, Rooted, String.toList_append, List.head?_append_of_ne_nil _ hne]

theorem EndsFlush.ne_empty {s : String} (h : EndsFlush s) : s ≠ "" := by
  rintro rfl
  obtain ⟨c, hc, -⟩ := h
  cases hc

theorem EndsFlush.lastUrlSegment_ne {url : String} (h : EndsFlush url) : lastUrlSegment url ≠ "" := by
  obtain ⟨c, hc, hne⟩ := h
  intro hempty
  have hnil : url.toList.rtakeWhile (· ≠ '/') = [] := by simpa [lastUrlSegment] using hempty
  obtain ⟨hchars, rfl⟩ := List.mem_getLast?_eq_getLast hc
  exact List.rtakeWhile_eq_nil_iff.mp hnil hchars (by simpa using hne)

/-! ## Parts -/

/-- What stands before the stem of the endpoint: the API path without the slashes at its end, unless nothing is left. -/
inductive ApiPart (apiPath : String) : Option String → Prop
  | absent : AllSlashes apiPath → ApiPart apiPath none
  | present {api : String} {n : Nat} : apiPath = api ++ slashes n → EndsFlush api → ApiPart apiPath (some api)

/-- What stands behind the stem: the route of the method without the slashes at its ends, or the name of the method if
nothing is left. -/
inductive LastPart (m : ClassifiedMethod) : String → Prop
  | route {route : String} {i j : Nat} : m.route = some (slashes i ++ route ++ slashes j) → StartsFlush route →
      EndsFlush route → LastPart m route
  | name : (∀ route, m.route = some route → AllSlashes route) → LastPart m m.name

/-- One slash between two parts is the only one there: the first part does not end in a slash and the second does not
start with one, and neither is empty. -/
structure JoinedOnce (a b : String) : Prop where
  before : EndsFlush a
  after : StartsFlush b

/-! ### API paths -/

/-- The part of a URL that comes from the API path, if there is one. -/
def apiPart? (apiPath : String) : Option String :=
  let api := Text.trimEndOf (· = '/') apiPath
  if api.isEmpty then none else some api

theorem apiPart_apiPart? (apiPath : String) : ApiPart apiPath (apiPart? apiPath) := by
  obtain ⟨n, hn⟩ := exists_slashes_trimEndOf apiPath
  unfold apiPart?
  simp only
  split
  · rename_i hempty
    rw [String.isEmpty_iff.mp hempty, String.empty_append] at hn
    exact .absent (hn ▸ allSlashes_slashes n)
  · rename_i hne
    refine .present hn (endsFlush_of_ne_empty (mt String.isEmpty_iff.mpr hne) fun c hc => ?_)
    rw [Text.trimEndOf, String.toList_ofList] at hc
    simpa using Text.eq_false_of_getLast?_dropTail hc

/-! ### Endpoints -/

theorem IsUrlSegment.endpointStem {endpoint : String} (h : IsUrlSegment endpoint) :
    IsUrlSegment (endpointStem endpoint) := by
  unfold WireTypes.endpointStem
  simp only
  split
  · rename_i hstem
    have hlen : endpointSuffix.toList.length < endpoint.toList.length := by simp_all
    refine ⟨fun hnil => ?_, fun hmem => ?_⟩
    · have hchars := congrArg (fun s => s.toList.length) hnil
      simp only [String.toList_ofList, List.length_take, String.toList_empty, List.length_nil] at hchars
      omega
    · rw [String.toList_ofList] at hmem
      exact h.no_slash (List.mem_of_mem_take hmem)
  · exact h

/-! ### Methods -/

theorem startsFlush_trimOf {s : String} (h : Text.trimOf (· = '/') s ≠ "") :
    StartsFlush (Text.trimOf (· = '/') s) := by
  refine startsFlush_of_ne_empty h fun c hc => ?_
  rw [Text.trimOf, String.toList_ofList] at hc
  simpa using Text.eq_false_of_head?_dropTail_dropWhile hc

theorem endsFlush_trimOf {s : String} (h : Text.trimOf (· = '/') s ≠ "") : EndsFlush (Text.trimOf (· = '/') s) := by
  refine endsFlush_of_ne_empty h fun c hc => ?_
  rw [Text.trimOf, String.toList_ofList] at hc
  simpa using Text.eq_false_of_getLast?_dropTail hc

theorem lastPart_routeOrName (m : ClassifiedMethod) : LastPart m (routeOrName m) := by
  unfold routeOrName
  split
  · rename_i route hroute
    obtain ⟨i, j, hij⟩ := exists_slashes_trimOf route
    simp only
    split
    · rename_i hempty
      rw [String.isEmpty_iff.mp hempty, String.append_empty] at hij
      have hall : AllSlashes route := hij ▸ allSlashes_append.mpr ⟨allSlashes_slashes i, allSlashes_slashes j⟩
      exact .name fun route' hroute' => Option.some.inj (hroute.symm.trans hroute') ▸ hall
    · rename_i hne
      have htrim := mt String.isEmpty_iff.mpr hne
      exact .route (hroute.trans (congrArg some hij)) (startsFlush_trimOf htrim) (endsFlush_trimOf htrim)
  · rename_i hroute
    exact .name fun route hroute' => by simp [hroute] at hroute'

/-- Slashes at the ends of a route make no difference. -/
theorem routeOrName_slashes (m : ClassifiedMethod) (route : String) (i j : Nat) :
    routeOrName { m with route := some (slashes i ++ route ++ slashes j) } =
      routeOrName { m with route := some route } := by
  have hslashes : ∀ n, ∀ c ∈ (slashes n).toList, decide (c = '/') = true := fun n c hc =>
    decide_eq_true (allSlashes_slashes n c hc)
  simp only [routeOrName, Text.trimOf_append_append (hslashes i) (hslashes j)]

section LastPart

variable {m : ClassifiedMethod} {last : String}

theorem LastPart.startsFlush (h : LastPart m last) (hname : IsUrlSegment m.name) : StartsFlush last := by
  cases h with
  | route _ hstarts _ => exact hstarts
  | name _ => exact hname.startsFlush

theorem LastPart.endsFlush (h : LastPart m last) (hname : IsUrlSegment m.name) : EndsFlush last := by
  cases h with
  | route _ _ hends => exact hends
  | name _ => exact hname.endsFlush

end LastPart

/-! ## URLs -/

/-- The parts of a URL with a slash between each two. -/
def joinParts (api : Option String) (stem last : String) : String := "/".intercalate (api.toList ++ [stem, last])

theorem joinParts_none (stem last : String) : joinParts none stem last = stem ++ "/" ++ last := by simp [joinParts]

theorem joinParts_some (api stem last : String) :
    joinParts (some api) stem last = api ++ "/" ++ joinParts none stem last := by simp [joinParts]

theorem methodUrl_eq_joinParts (apiPath endpoint : String) (m : ClassifiedMethod) :
    methodUrl apiPath endpoint m = joinParts (apiPart? apiPath) (endpointStem endpoint) (routeOrName m) := by
  unfold methodUrl apiPart?
  simp only
  split
  · rw [joinParts_none]
  · rw [joinParts_some, joinParts_none]

section JoinParts

variable {apiPath stem last : String} {api : Option String}

theorem ApiPart.isChain (h : ApiPart apiPath api) (hstem : IsUrlSegment stem) (hlast : StartsFlush last) :
    (api.toList ++ [stem, last]).IsChain JoinedOnce := by
  have hpair : [stem, last].IsChain JoinedOnce := List.isChain_pair.mpr ⟨hstem.endsFlush, hlast⟩
  cases h with
  | absent _ => exact hpair
  | present _ hends => exact List.isChain_cons_cons.mpr ⟨⟨hends, hstem.startsFlush⟩, hpair⟩

/-- A URL starts as its API path does, unless nothing comes from there. -/
theorem ApiPart.rooted_iff (h : ApiPart apiPath api) (hstem : StartsFlush stem) (last : String) :
    Rooted (joinParts api stem last) ↔ Rooted apiPath ∧ ¬AllSlashes apiPath := by
  cases h with
  | absent hall =>
    rw [joinParts_none, String.append_assoc]
    exact ⟨fun hrooted => absurd hrooted (hstem.append _).not_rooted, fun hpath => absurd hall hpath.2⟩
  | present hpath hends =>
    have hnot : ¬AllSlashes apiPath := fun hall => hends.not_allSlashes (allSlashes_append.mp (hpath ▸ hall)).1
    rw [and_iff_left hnot, hpath, joinParts_some, String.append_assoc, rooted_append_iff hends.ne_empty,
      rooted_append_iff hends.ne_empty]

theorem endsFlush_joinParts (api : Option String) (stem : String) (h : EndsFlush last) :
    EndsFlush (joinParts api stem last) := by
  cases api with
  | none => exact joinParts_none stem last ▸ h.append _
  | some api => exact joinParts_some api stem last ▸ (joinParts_none stem last ▸ h.append _).append _

end JoinParts

/-- **A URL is rooted as its API path is, unless that consists of slashes, and its parts are joined by single slashes.**
Its last segment is never empty, and slashes at the ends of the route do not change it. -/
theorem methodUrl_joined {endpoint : String} {m : ClassifiedMethod} (hendpoint : IsUrlSegment endpoint)
    (hname : IsUrlSegment m.name) (apiPath : String) :
    let url := methodUrl apiPath endpoint m
    (Rooted url ↔ Rooted apiPath ∧ ¬AllSlashes apiPath) ∧
      (∃ api last, ApiPart apiPath api ∧ LastPart m last ∧
        let parts := api.toList ++ [endpointStem endpoint, last]
        url = "/".intercalate parts ∧ parts.IsChain JoinedOnce) ∧
      lastUrlSegment url ≠ "" ∧
      ∀ route i j, methodUrl apiPath endpoint { m with route := some (slashes i ++ route ++ slashes j) } =
        methodUrl apiPath endpoint { m with route := some route } := by
  intro url
  have hurl : url = joinParts (apiPart? apiPath) (endpointStem endpoint) (routeOrName m) :=
    methodUrl_eq_joinParts apiPath endpoint m
  have hapi := apiPart_apiPart? apiPath
  have hlast := lastPart_routeOrName m
  have hstem := hendpoint.endpointStem
  refine ⟨?_, ⟨_, _, hapi, hlast, hurl, hapi.isChain hstem (hlast.startsFlush hname)⟩, ?_, fun route i j => ?_⟩
  · rw [hurl]
    exact hapi.rooted_iff hstem.startsFlush _
  · rw [hurl]
    exact (endsFlush_joinParts _ _ (hlast.endsFlush hname)).lastUrlSegment_ne
  · rw [methodUrl_eq_joinParts, methodUrl_eq_joinParts, routeOrName_slashes]

/-- A method with slashes around its route. -/
def routedMethod : ClassifiedMethod := ⟨"GetOrder", none, some "//orders/by-id/", .untyped, []⟩

theorem methodUrl_joined_routedMethod :
    IsUrlSegment "OrdersController" ∧ IsUrlSegment routedMethod.name ∧
      methodUrl "/api//" "OrdersController" routedMethod = "/api/Orders/orders/by-id" ∧
      Rooted (methodUrl "/api//" "OrdersController" routedMethod) ∧
      lastUrlSegment (methodUrl "/api//" "OrdersController" routedMethod) = "by-id" ∧
      methodUrl "/api//" "OrdersController" { routedMethod with route := some (slashes 3 ++ "all" ++ slashes 1) } =
        "/api/Orders/all" := by
  have hendpoint : IsUrlSegment "OrdersController" := ⟨by decide, by decide⟩
  have hname : IsUrlSegment routedMethod.name := ⟨by decide, by decide⟩
  have hjoined := methodUrl_joined hendpoint hname "/api//"
  refine ⟨hendpoint, hname, by decide +kernel, ?_, by decide +kernel, ?_⟩
  · refine hjoined.1.mpr ⟨rfl, fun hall => ?_⟩
    exact absurd (hall 'a' (by decide)) (by decide)
  · rw [hjoined.2.2.2 "all" 3 1]
    decide +kernel

/-- An API path of slashes is rooted, and the URL is not. -/
theorem methodUrl_of_slashes :
    let m : ClassifiedMethod := ⟨"GetOrder", none, none, .untyped, []⟩
    IsUrlSegment "OrdersController" ∧ IsUrlSegment m.name ∧ Rooted "/" ∧
      methodUrl "/" "OrdersController" m = "Orders/GetOrder" ∧ ¬Rooted (methodUrl "/" "OrdersController" m) := by
  intro m
  have hurl : methodUrl "/" "OrdersController" m = "Orders/GetOrder" := by decide +kernel
  refine ⟨⟨by decide, by decide⟩, ⟨by decide, by decide⟩, rfl, hurl, ?_⟩
  rw [hurl]
  intro hrooted
  cases hrooted

end WireTypes

import Mathlib.Data.List.Induction
import PrivacyAudit.Detector.Web
import PrivacyAudit.Failure
import PrivacyAudit.Proofs.Merging

/-!
# Overriding

A package description lists dependencies in two sections, and its reader folds the members of both
into one list: a name that is in the list keeps its place and takes the later version, any other
goes to the end.

Here the list is described without the fold (`Overrides`). The names are those of the first section
and then those that only the second has, each section in byte order; the version is what the second
section has under the name, or else the first one, as far as that is a text. The steps say what one
member changes (`names_declare`, `find?_declare`), the runs what all members of a section do
(`names_declareAll`, `find?_declareAll`).
-/

namespace PrivacyAudit

open Json (Value)

/-! ## 1. The members of a section -/

/-- The names of members, in byte order. -/
def keys (members : List (String × Value)) : TagSet := .ofList (members.map (·.1))

theorem mem_keys {members : List (String × Value)} {name : String} :
    name ∈ keys members ↔ ∃ v, (name, v) ∈ members := by
  simp [keys, TagSet.ofList]

theorem nodup_keys (members : List (String × Value)) : (keys members).toList.Nodup :=
  (keys members).ascending.imp fun {_ _} (h : Text.Before _ _) heq =>
  absurd (heq ▸ h) (Text.Before.irrefl _)

theorem names_putMember (name : String) (v : Value) (members : List (String × Value)) :
    (putMember name v members).map (·.1) = TagSet.insertInto name (members.map (·.1)) := by
  fun_induction putMember name v members with
  | case1 => rfl
  | case2 => simp [TagSet.insertInto]
  | case3 n w rest hne hbefore => simp [TagSet.insertInto, hne, hbefore]
  | case4 n w rest hne hbefore ih => simp [TagSet.insertInto, hne, hbefore, ih]

theorem lookup_cons_eq_ite (n key : String) (w : Value) (rest : List (String × Value)) :
    ((n, w) :: rest).lookup key = if key = n then some w else rest.lookup key := by
  rw [List.lookup_cons]
  by_cases hkey : key = n
  · simp [hkey]
  · simp only [beq_eq_false_iff_ne.mpr hkey, if_neg hkey]

theorem lookup_putMember (name key : String) (v : Value) (members : List (String × Value)) :
    (putMember name v members).lookup key = if key = name then some v else members.lookup key := by
  fun_induction putMember name v members with
  | case1 => exact lookup_cons_eq_ite ..
  | case2 => by_cases hkey : key = name <;> simp [lookup_cons_eq_ite, hkey]
  | case3 => exact lookup_cons_eq_ite ..
  | case4 n w rest hne hbefore ih =>
    rw [lookup_cons_eq_ite, lookup_cons_eq_ite, ih]
    by_cases hkey : key = name
    · simp [hkey, hne]
    · simp [hkey]

theorem sortedMembers_concat (members : List (String × Value)) (m : String × Value) :
    sortedMembers (members ++ [m]) = putMember m.1 m.2 (sortedMembers members) := by
  rw [sortedMembers, List.foldl_append]
  rfl

theorem names_sortedMembers (members : List (String × Value)) :
    (sortedMembers members).map (·.1) = (keys members).toList := by
  induction members using List.reverseRecOn with
  | nil => rfl
  | append_singleton members m ih =>
    rw [sortedMembers_concat, names_putMember, ih, keys, keys, List.map_append, TagSet.ofList,
      TagSet.ofList, ← TagSet.insertAll_append]
    rfl

theorem member?_concat (members : List (String × Value)) (m : String × Value) (key : String) :
    Value.member? (members ++ [m]) key = if key = m.1 then some m.2
      else Value.member? members key := by
  rw [Value.member?, List.reverse_append, List.reverse_singleton, List.singleton_append,
    List.find?_cons]
  by_cases hkey : key = m.1
  · simp [hkey]
  · simp only [beq_eq_false_iff_ne.mpr (Ne.symm hkey), if_neg hkey, Value.member?]

/-- Under a name the last member counts. -/
theorem lookup_sortedMembers (members : List (String × Value)) (key : String) :
    (sortedMembers members).lookup key = Value.member? members key := by
  induction members using List.reverseRecOn with
  | nil => rfl
  | append_singleton members m ih => rw [sortedMembers_concat, lookup_putMember, member?_concat, ih]

/-! ## 2. Declaring -/

/-- The names of dependencies. -/
def declaredNames (ds : List Dependency) : List String := ds.map (·.name)

/-- The dependencies with those of a section. -/
def declareAll (ds : List Dependency) (members : List (String × Value)) : List Dependency :=
  members.foldl (fun ds (name, version) => declare name version.string? ds) ds

section Declaring

variable (ds : List Dependency) {members : List (String × Value)} (name key : String)
  (version? : Option String) (v : Value)

theorem names_declare :
    declaredNames (declare name version? ds) =
      if name ∈ declaredNames ds then declaredNames ds else declaredNames ds ++ [name] := by
  unfold declaredNames
  fun_induction declare name version? ds with
  | case1 => simp
  | case2 d ds heq => simp [heq]
  | case3 d ds hne ih =>
    rw [List.map_cons, List.map_cons, ih]
    simp only [List.mem_cons, Ne.symm hne, false_or]
    split <;> rfl

theorem find?_declare :
    (declare name version? ds).find? (·.name = key) =
      if key = name then some ⟨name, version?⟩ else ds.find? (·.name = key) := by
  fun_induction declare name version? ds with
  | case1 => by_cases hkey : key = name <;> simp [hkey, eq_comm]
  | case2 d ds heq => by_cases hkey : key = name <;> simp [hkey, heq, eq_comm]
  | case3 d ds hne ih =>
    rw [List.find?_cons, List.find?_cons, ih]
    by_cases hkey : key = name <;> simp [hkey, hne]

theorem declareAll_concat :
    declareAll ds (members ++ [(name, v)]) = declare name v.string? (declareAll ds members) := by
  rw [declareAll, List.foldl_append]
  rfl

theorem nodup_names_concat :
    ((members ++ [(name, v)]).map (·.1)).Nodup ↔ (members.map (·.1)).Nodup ∧
    name ∉ members.map (·.1) := by
  rw [List.map_append, List.map_singleton, ← List.concat_eq_append, List.nodup_concat, and_comm]

/-- A section adds the names that are not there yet. -/
theorem names_declareAll (hnodup : (members.map (·.1)).Nodup) :
    declaredNames (declareAll ds members) =
      declaredNames ds ++ (members.map (·.1)).filter (· ∉ declaredNames ds) := by
  induction members using List.reverseRecOn with
  | nil => simp [declareAll]
  | append_singleton members m ih =>
    obtain ⟨name, v⟩ := m
    obtain ⟨hmembers, hnew⟩ := (nodup_names_concat name v).mp hnodup
    rw [declareAll_concat, names_declare, ih hmembers, List.map_append, List.filter_append,
      List.map_singleton]
    by_cases hold : name ∈ declaredNames ds
    · simp [hold]
    · have hnot : name ∉ declaredNames ds ++ (members.map (·.1)).filter (· ∉ declaredNames ds) := by
        rw [List.mem_append, not_or]
        exact ⟨hold, fun h => hnew (List.mem_filter.mp h).1⟩
      rw [if_neg hnot, List.append_assoc, List.filter_singleton, decide_eq_true hold, cond_true]

/-- What a section has under a name overrides what was there. -/
theorem find?_declareAll (hnodup : (members.map (·.1)).Nodup) :
    (declareAll ds members).find? (·.name = key) =
      ((members.lookup key).map fun v => ⟨key, v.string?⟩).or (ds.find? (·.name = key)) := by
  induction members using List.reverseRecOn with
  | nil => simp [declareAll]
  | append_singleton members m ih =>
    obtain ⟨name, v⟩ := m
    obtain ⟨hmembers, hnew⟩ := (nodup_names_concat name v).mp hnodup
    rw [declareAll_concat, find?_declare, ih hmembers, List.lookup_append, lookup_cons_eq_ite]
    by_cases hkey : key = name
    · subst hkey
      have hnone : members.lookup key = none :=
        List.lookup_eq_none_iff.mpr fun p hp => by
          rw [bne_iff_ne]
          exact fun heq => hnew (heq ▸ List.mem_map_of_mem hp)
      simp [hnone]
    · simp [hkey]

end Declaring

/-! ## 3. Two sections -/

/-- What two sections declare. -/
structure Overrides (first second : List (String × Value)) (ds : List Dependency) : Prop where
  /-- The names of the first section come first, then those that only the second has. -/
  names : ds.map (·.name) = (keys first).toList ++ (keys second).toList.filter (· ∉ keys first)
  /-- No name is declared twice. -/
  nodup : (ds.map (·.name)).Nodup
  /-- The version is the text, if it is one, that the second section has under the name, or else the
  first. -/
  versions : ∀ d ∈ ds, d.version? =
    ((Value.member? second d.name).or (Value.member? first d.name)).bind Value.string?

/-- The dependencies of two sections. -/
def overridden (first second : List (String × Value)) : List Dependency :=
  ((keys first).toList ++ (keys second).toList.filter (· ∉ keys first)).map fun name =>
    ⟨name, ((Value.member? second name).or (Value.member? first name)).bind Value.string?⟩

/-- Two sections declare one list only. -/
theorem Overrides.eq_overridden {first second : List (String × Value)} {ds : List Dependency}
    (h : Overrides first second ds) : ds = overridden first second := by
  rw [overridden, ← h.names, List.map_map]
  exact (List.map_id' ds).symm.trans (List.map_congr_left fun d hd =>
    congrArg (Dependency.mk d.name) (h.versions d hd))

theorem find?_eq_of_mem {ds : List Dependency} (hnodup : (declaredNames ds).Nodup) {d : Dependency}
    (hd : d ∈ ds) : ds.find? (·.name = d.name) = some d := by
  have hfound : (ds.find? (·.name = d.name)).isSome := List.find?_isSome.mpr ⟨d, hd, by simp⟩
  obtain ⟨d', hd'⟩ := Option.isSome_iff_exists.mp hfound
  have hname : d'.name = d.name := by simpa using List.find?_some hd'
  rw [hd', List.inj_on_of_nodup_map hnodup (List.mem_of_find?_eq_some hd') hd hname]

theorem overrides_declareAll (first second : List (String × Value)) :
    Overrides first second
      (declareAll (declareAll [] (sortedMembers first)) (sortedMembers second)) := by
  have hfirst : ((sortedMembers first).map (·.1)).Nodup :=
    names_sortedMembers first ▸ nodup_keys first
  have hsecond : ((sortedMembers second).map (·.1)).Nodup :=
    names_sortedMembers second ▸ nodup_keys second
  have hbefore : declaredNames (declareAll [] (sortedMembers first)) = (keys first).toList := by
    rw [names_declareAll [] hfirst, names_sortedMembers]
    simp [declaredNames]
  have hnames :
      declaredNames (declareAll (declareAll [] (sortedMembers first)) (sortedMembers second)) =
      (keys first).toList ++ (keys second).toList.filter (· ∉ keys first) := by
    rw [names_declareAll _ hsecond, hbefore, names_sortedMembers]
    rfl
  have hnodup :
      (declaredNames
        (declareAll (declareAll [] (sortedMembers first)) (sortedMembers second))).Nodup := by
    rw [hnames, List.nodup_append]
    refine ⟨nodup_keys first, (nodup_keys second).filter _, ?_⟩
    intro name hname name' hname' heq
    have hnot : name' ∉ keys first := of_decide_eq_true (List.mem_filter.mp hname').2
    exact hnot (heq ▸ hname)
  refine ⟨hnames, hnodup, fun d hd => ?_⟩
  have hfind := find?_eq_of_mem hnodup hd
  rw [find?_declareAll _ _ hsecond, find?_declareAll _ _ hfirst, lookup_sortedMembers,
    lookup_sortedMembers, List.find?_nil, Option.or_none] at hfind
  cases hs : Value.member? second d.name with
  | some v =>
    rw [hs, Option.map_some, Option.some_or, Option.some_inj] at hfind
    rw [Option.some_or, Option.bind_some, ← hfind]
  | none =>
    rw [hs, Option.map_none, Option.none_or, Option.map_eq_some_iff] at hfind
    obtain ⟨v, hv, hdv⟩ := hfind
    rw [Option.none_or, hv, Option.bind_some, ← hdv]

theorem packageDependencies_eq (v : Value) :
    packageDependencies v = declareAll (declareAll [] (sortedMembers (section? v "dependencies")))
      (sortedMembers (section? v "devDependencies")) := by
  simp [packageDependencies, dependencySections, declareAll, List.foldl_append]

/-- What is no object declares nothing. -/
theorem packageDependencies_of_not_object {v : Value} (h : v.members? = none) :
    packageDependencies v = [] := by
  simp [packageDependencies, dependencySections, section?, Value.get?, h, sortedMembers]

/-! ## 4. The detector -/

theorem Finding.dependencies_push (f : Finding) (c : Category) (tag : String) :
    (f.push c tag).dependencies = f.dependencies := by
  cases c <;> rfl

theorem dependencies_addPermissions (f : Finding) :
    (addPermissions f).dependencies = f.dependencies := by
  unfold addPermissions
  dsimp only
  split <;> split <;> simp only [Finding.dependencies_push]

/-- **The dependencies of a package description.** A text that is no JSON, or no object, declares
none. Otherwise those of the second section override those of the first: each name is listed once,
the names of the first section in byte order and then those that only the second has, with what the
last section has for it as the version, if it is a text. -/
theorem Detector.web_dependencies (c : Catalog) (path : Path)
    (hpath : path.fileNameText = packageJsonName) (content : String) :
    ∃ f, (Detector.web c).scan content path = some f ∧
      (∀ e, Value.read content.toList = .error e → f.dependencies = []) ∧
      ∀ v, Value.read content.toList = .ok v →
        (v.members? = none → f.dependencies = []) ∧
        Overrides (section? v "dependencies") (section? v "devDependencies") f.dependencies := by
  refine ⟨_, rfl, ?_⟩
  rw [dependencies_addPermissions, addFileContents, if_pos hpath]
  dsimp only [packageJsonDependencies]
  refine ⟨fun e he => by rw [he], fun v hv => ?_⟩
  rw [hv]
  refine ⟨packageDependencies_of_not_object, ?_⟩
  dsimp only
  rw [packageDependencies_eq]
  exact overrides_declareAll _ _

/-- `vue` is in both sections, in the second without a text; `b` is twice in the first. -/
def overlappingSections : String :=
  "\x7b\"devDependencies\":\x7b\"vue\":3,\"jest\":\"29\"\x7d," ++
    "\"dependencies\":\x7b\"vue\":\"2\",\"b\":4,\"b\":\"1\"\x7d\x7d"

/-- Of the names in both sections the version is the last one. -/
theorem Detector.web_dependencies_of_overlap :
    (Path.ofText "shop/package.json").fileNameText = packageJsonName ∧
      ∃ f, (Detector.web ⟨"W", ["js"], []⟩).scan overlappingSections (.ofText "shop/package.json") =
        some f ∧ f.dependencies = [⟨"b", some "1"⟩, ⟨"vue", none⟩, ⟨"jest", some "29"⟩] := by
  have hpath : (Path.ofText "shop/package.json").fileNameText = packageJsonName := by decide +kernel
  have hlist : (Value.read overlappingSections.toList).toOption.map
      (fun v => overridden (section? v "dependencies") (section? v "devDependencies")) =
        some [⟨"b", some "1"⟩, ⟨"vue", none⟩, ⟨"jest", some "29"⟩] := by
    decide +kernel
  obtain ⟨v, hread, hv⟩ := Option.map_eq_some_iff.mp hlist
  obtain ⟨f, hf, -, hdependencies⟩ :=
    Detector.web_dependencies ⟨"W", ["js"], []⟩ _ hpath overlappingSections
  exact ⟨hpath, f, hf, (hdependencies v (eq_ok_of_toOption hread)).2.eq_overridden.trans hv⟩

end PrivacyAudit

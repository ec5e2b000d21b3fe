import Introspect.Proofs.Flags.Rules
import Introspect.Proofs.Resolver.Listing

/-!
# `Introspect.Proofs.Resolver.Selectors`: names and rules only filter what a query lists

A query can be given names, the rule that only declared members count and the rule that backing
members are left out. All of them are tested in the same walk that decides which members are hidden.
A member that is left out hides nothing, so it is not clear that the answer is what the query lists
without them, less some members: a member that is hidden there could appear here.

It does not when members that hide one another are all kept or all left out (`collect_filter`). That
is so for names and for backing members, since what hides a member has its name. The types behind
the first one on a chain only add at the end, so the first one alone lists what is declared on it
(`filter_collect_of_hidden`). Should a base lead back to the type, its members are hidden by then.

`selectors_filter` says so of fields, properties and methods. The queries agree about errors as
well, with one exception: a base that is not published is missed only by a query that looks at
bases.
-/

set_option autoImplicit false

namespace Introspect

/-- Adding another rule changes no chain. -/
theorem Registry.typeChain_union (reg : Registry) (type : TypeHandle) (flags : Flags)
    {extra : Flags} (h : extra.Apart Flags.declaredOnly) :
    reg.typeChain type (flags ∪ extra) = reg.typeChain type flags := by
  rw [typeChain, typeChain, Flags.contains_union_of_apart flags h]

namespace Query

variable {α : Type} {members : TypeInfo → List α} {wanted keep : α → Bool} {hides : α → α → Bool}
  {declaring type : TypeHandle} {found : List (Declared α)} {chain : List TypeInfo}

/-! ### Members that are left out -/

section Keeping

variable (hkeep : ∀ a b, hides a b = true → keep a = keep b)

include hkeep

/-- A member that is kept is hidden by members that are kept. -/
theorem add_filter (found : List (Declared α)) (member : α) :
    add (fun a => wanted a && keep a) hides declaring (found.filter (keep ·.member)) member =
      (add wanted hides declaring found member).filter (keep ·.member) := by
  cases hmember : keep member with
  | false =>
      -- It is added to neither list, or to one of them and then left out.
      unfold add
      split
      · next hcondition => simp [hmember] at hcondition
      · split
        · simp [hmember]
        · rfl
  | true =>
      -- Whatever hides it is kept as well, so the shorter list hides as much.
      have hhidden :
          (found.filter (keep ·.member)).any (fun earlier => hides earlier.member member) =
            found.any fun earlier => hides earlier.member member := by
        rw [List.any_filter]
        congr 1
        funext earlier
        cases hhides : hides earlier.member member with
        | false => rw [Bool.and_false]
        | true => rw [hkeep _ _ hhides, hmember, Bool.and_true]
      simp only [add, hhidden, hmember, Bool.and_true]
      split
      · simp [hmember]
      · rfl

/-- The same for the members of a type. -/
theorem foldl_add_filter (found : List (Declared α)) (items : List α) :
    items.foldl (add (fun a => wanted a && keep a) hides declaring) (found.filter (keep ·.member)) =
      (items.foldl (add wanted hides declaring) found).filter (keep ·.member) := by
  induction items generalizing found with
  | nil => rfl
  | cons item rest ih => rw [List.foldl_cons, add_filter hkeep, ih, List.foldl_cons]

/-- The same along a chain: what is listed under one more condition is what is listed without it, in
the same order, less what does not meet it. -/
theorem collect_filter (found : List (Declared α)) (chain : List TypeInfo) :
    collect members (fun a => wanted a && keep a) hides chain (found.filter (keep ·.member)) =
      (collect members wanted hides chain found).filter (keep ·.member) := by
  induction chain generalizing found with
  | nil => rfl
  | cons info rest ih =>
      have hrest := ih ((members info).foldl (add wanted hides info.handle) found)
      rw [← foldl_add_filter hkeep] at hrest
      exact hrest

end Keeping

/-! ### Members of the type itself -/

/-- Members that are hidden are not added. -/
theorem foldl_add_of_hidden {items : List α}
    (h : ∀ item ∈ items, wanted item = true → ∃ d ∈ found, hides d.member item = true) :
    items.foldl (add wanted hides declaring) found = found := by
  induction items with
  | nil => rfl
  | cons item rest ih =>
      have hfirst : add wanted hides declaring found item = found := by
        refine if_neg fun hcondition => ?_
        obtain ⟨hwanted, hnone⟩ := Bool.and_eq_true_iff.mp hcondition
        obtain ⟨d, hd, hhides⟩ := h item List.mem_cons_self hwanted
        have hsome : found.any (fun earlier => hides earlier.member item) = true :=
          List.any_eq_true.mpr ⟨d, hd, hhides⟩
        simp [hsome] at hnone
      rw [List.foldl_cons, hfirst]
      exact ih fun other hother => h other (.tail _ hother)

/-- What another type adds is not declared on this one. -/
theorem filter_foldl_add_of_ne (hne : declaring ≠ type) (found : List (Declared α))
    (items : List α) :
    (items.foldl (add wanted hides declaring) found).filter (·.declaring == type) =
      found.filter (·.declaring == type) := by
  induction items generalizing found with
  | nil => rfl
  | cons item rest ih =>
      have hfirst : (add wanted hides declaring found item).filter (·.declaring == type) =
          found.filter (·.declaring == type) := by
        unfold add
        split
        · simp [hne]
        · rfl
      rw [List.foldl_cons, ih, hfirst]

/-- A chain adds no member that is declared on a type whose wanted members are all hidden before. -/
theorem filter_collect_of_hidden
    (h : ∀ info ∈ chain, info.handle = type → ∀ item ∈ members info, wanted item = true →
      ∃ d ∈ found, hides d.member item = true) :
    (collect members wanted hides chain found).filter (·.declaring == type) =
      found.filter (·.declaring == type) := by
  induction chain generalizing found with
  | nil => rfl
  | cons info rest ih =>
      -- The list only grows, so what is hidden stays hidden for the rest of the chain.
      have hgrown : found <+: (members info).foldl (add wanted hides info.handle) found :=
        prefix_foldl_add found (members info)
      have hrest : ∀ other ∈ rest, other.handle = type → ∀ item ∈ members other,
          wanted item = true → ∃ d ∈ (members info).foldl (add wanted hides info.handle) found,
            hides d.member item = true := by
        intro other hother hhandle item hitem hwanted
        obtain ⟨d, hd, hhides⟩ := h other (.tail _ hother) hhandle item hitem hwanted
        exact ⟨d, hgrown.subset hd, hhides⟩
      show (collect members wanted hides rest _).filter _ = _
      rw [ih hrest]
      by_cases hhandle : info.handle = type
      · rw [foldl_add_of_hidden (h info List.mem_cons_self hhandle)]
      · exact filter_foldl_add_of_ne hhandle found (members info)

/-- What the first type of a chain lists by itself is what the chain lists of that type. -/
theorem collect_head (hrefl : ∀ a, hides a a = true) {info : TypeInfo}
    (hsame : ∀ other ∈ chain, other.handle = info.handle → other = info) :
    collect members wanted hides [info] [] =
      (collect members wanted hides (info :: chain) []).filter (·.declaring == info.handle) := by
  have hown : ∀ d ∈ collect members wanted hides [info] [],
      (d.declaring == info.handle) = true := by
    intro d hd
    cases mem_foldl_add hd with
    | inl hnone => cases hnone
    | inr hadded => rw [hadded.1, beq_self_eq_true]
  have hlater := @filter_collect_of_hidden _ members wanted hides info.handle
    (collect members wanted hides [info] []) chain (by
      intro other hother hhandle item hitem hwanted
      rw [hsame other hother hhandle] at hitem
      exact exists_hiding_foldl_add hrefl hitem hwanted)
  rw [← collect_append, List.singleton_append] at hlater
  rw [hlater, List.filter_eq_self.mpr hown]

/-! ### Rules and names -/

/-- Names select the same members when no rule about names is added. -/
theorem selects_union (flags : Flags) {extra : Flags} (hcase : extra.Apart Flags.ignoreCase)
    (hpartial : extra.Apart Flags.partialNameMatch) (names : List String) (member : String) :
    selects (flags ∪ extra) names member = selects flags names member := by
  rw [selects, selects]
  simp only [Flags.matchesName_union flags hcase hpartial]

/-! ### Kinds of members -/

/-- What the queries for different kinds of members differ in. A member hides others of its name
only, and these are backing members if it is one. -/
structure Listing (α : Type) where
  members : TypeInfo → List α
  nameOf : α → String
  visibility : α → Visibility
  isStatic : α → Bool
  isBacking : α → Bool
  hides : α → α → Bool
  hides_self : ∀ a, hides a a = true
  nameOf_eq : ∀ a b, hides a b = true → nameOf a = nameOf b
  isBacking_eq : ∀ a b, hides a b = true → isBacking a = isBacking b

namespace Listing

variable {reg : Registry} {flags extra : Flags} {names : List String}

/-- Whether a member is listed, unless it is hidden. -/
def wants (listing : Listing α) (flags : Flags) (names : List String) (member : α) : Bool :=
  flags.matchesBinding (listing.visibility member) (listing.isStatic member) &&
    !(skipsBacking flags && listing.isBacking member) &&
      selects flags names (listing.nameOf member)

/-- What a chain of types lists. -/
def walk (listing : Listing α) (flags : Flags) (names : List String) (chain : List TypeInfo) :
    List (Declared α) :=
  collect listing.members (listing.wants flags names) listing.hides chain []

/-- The query for members of this listing. -/
def query (listing : Listing α) (reg : Registry) (type : TypeHandle) (flags : Flags)
    (names : List String) : Except ReflectError (List (Declared α)) :=
  (reg.typeChain type flags).map (listing.walk flags names)

/-- Fields are hidden by name. -/
def fields : Listing FieldInfo where
  members := TypeInfo.fields
  nameOf := FieldInfo.name
  visibility := FieldInfo.visibility
  isStatic := FieldInfo.isStatic
  isBacking := FieldInfo.isBacking
  hides a b := a.name == b.name
  hides_self a := beq_self_eq_true a.name
  nameOf_eq _ _ h := beq_iff_eq.mp h
  isBacking_eq a b h := by rw [FieldInfo.isBacking, FieldInfo.isBacking, beq_iff_eq.mp h]

/-- Properties are hidden by name, and none is a backing member. -/
def properties : Listing PropertyInfo where
  members := TypeInfo.properties
  nameOf := PropertyInfo.name
  visibility := PropertyInfo.visibility
  isStatic := PropertyInfo.isStatic
  isBacking _ := false
  hides a b := a.name == b.name
  hides_self a := beq_self_eq_true a.name
  nameOf_eq _ _ h := beq_iff_eq.mp h
  isBacking_eq _ _ _ := rfl

/-- Methods are hidden by name and parameter types. -/
def methods : Listing MethodInfo where
  members := TypeInfo.methods
  nameOf := MethodInfo.name
  visibility := MethodInfo.visibility
  isStatic := MethodInfo.isStatic
  isBacking := MethodInfo.isPropertyAccessor
  hides := hidesMethod
  hides_self a := by simp [hidesMethod]
  nameOf_eq a b h := beq_iff_eq.mp (Bool.and_eq_true_iff.mp h).1
  isBacking_eq a b h := by
    have hname : a.name = b.name := beq_iff_eq.mp (Bool.and_eq_true_iff.mp h).1
    rw [MethodInfo.isPropertyAccessor, MethodInfo.isPropertyAccessor, hname]

/-! ### One kind of members -/

/-- Names keep the members that match one of them. -/
theorem walk_names (listing : Listing α) (flags : Flags) (hnames : names ≠ [])
    (chain : List TypeInfo) :
    listing.walk flags names chain = (listing.walk flags [] chain).filter fun d =>
      names.any fun name => flags.matchesName (listing.nameOf d.member) name := by
  have hkeep : ∀ a b, listing.hides a b = true →
      (names.any fun name => flags.matchesName (listing.nameOf a) name) =
        names.any fun name => flags.matchesName (listing.nameOf b) name := by
    intro a b hhides
    rw [listing.nameOf_eq a b hhides]
  have hwants : listing.wants flags names = fun a => listing.wants flags [] a &&
      names.any fun name => flags.matchesName (listing.nameOf a) name := by
    funext a
    have hsome : names.isEmpty = false := by simpa using hnames
    simp [wants, selects, hsome]
  rw [walk, hwants]
  exact collect_filter hkeep [] chain

/-- When no rule about names, visibility or storage is added, only backing members can be told
apart. -/
theorem wants_union (listing : Listing α) (flags : Flags) (hcase : extra.Apart Flags.ignoreCase)
    (hpartial : extra.Apart Flags.partialNameMatch)
    (hbinding : extra.Apart Flags.staticInstanceAnyVisibility) (names : List String) (member : α) :
    listing.wants (flags ∪ extra) names member =
      (flags.matchesBinding (listing.visibility member) (listing.isStatic member) &&
        !(skipsBacking (flags ∪ extra) && listing.isBacking member) &&
          selects flags names (listing.nameOf member)) := by
  rw [wants, selects_union flags hcase hpartial, Flags.matchesBinding_union flags hbinding]

/-- Without backing members, the others are listed. -/
theorem walk_excludeBacking (listing : Listing α) (flags : Flags) (names : List String)
    (chain : List TypeInfo) :
    listing.walk (flags ∪ Flags.excludeBackingMembers) names chain =
      (listing.walk flags names chain).filter fun d => !listing.isBacking d.member := by
  have hkeep : ∀ a b, listing.hides a b = true → (!listing.isBacking a) = !listing.isBacking b := by
    intro a b hhides
    rw [listing.isBacking_eq a b hhides]
  have hskips : skipsBacking (flags ∪ Flags.excludeBackingMembers) = true :=
    Flags.contains_union_self flags _
  have hwants : listing.wants (flags ∪ Flags.excludeBackingMembers) names =
      fun a => listing.wants flags names a && !listing.isBacking a := by
    funext a
    rw [wants_union listing flags (by decide) (by decide) (by decide), hskips, wants]
    cases listing.isBacking a <;> simp
  rw [walk, hwants]
  exact collect_filter hkeep [] chain

/-- The rule for declared members does not change which members of a chain are listed. -/
theorem walk_declaredOnly (listing : Listing α) (flags : Flags) (names : List String)
    (chain : List TypeInfo) :
    listing.walk (flags ∪ Flags.declaredOnly) names chain = listing.walk flags names chain := by
  have hskips : skipsBacking (flags ∪ Flags.declaredOnly) = skipsBacking flags :=
    Flags.contains_union_of_apart flags (by decide)
  have hwants : listing.wants (flags ∪ Flags.declaredOnly) names = listing.wants flags names := by
    funext a
    rw [wants_union listing flags (by decide) (by decide) (by decide), hskips, wants]
  rw [walk, walk, hwants]

/-- Names keep the members that match one of them. -/
theorem query_names (listing : Listing α) (reg : Registry) (type : TypeHandle) (flags : Flags)
    (hnames : names ≠ []) :
    listing.query reg type flags names = (listing.query reg type flags []).map (List.filter fun d =>
      names.any fun name => flags.matchesName (listing.nameOf d.member) name) := by
  rw [query, query]
  cases reg.typeChain type flags with
  | error e => rfl
  | ok chain => exact congrArg Except.ok (listing.walk_names flags hnames chain)

/-- Without backing members, the others are listed. -/
theorem query_excludeBacking (listing : Listing α) (reg : Registry) (type : TypeHandle)
    (flags : Flags) (names : List String) :
    listing.query reg type (flags ∪ Flags.excludeBackingMembers) names =
      (listing.query reg type flags names).map
        (List.filter fun d => !listing.isBacking d.member) := by
  rw [query, query, reg.typeChain_union type flags (by decide)]
  cases reg.typeChain type flags with
  | error e => rfl
  | ok chain => exact congrArg Except.ok (listing.walk_excludeBacking flags names chain)

/-- The rule for declared members keeps those of the type itself. It makes a difference for errors
when a base is not published. -/
theorem query_declaredOnly (listing : Listing α) (hkeyed : reg.Keyed) (type : TypeHandle)
    (flags : Flags) (names : List String) :
    listing.query reg type (flags ∪ Flags.declaredOnly) names =
        (listing.query reg type flags names).map (List.filter (·.declaring == type)) ∨
      ∃ base ∈ reg.bases type, reg.get base = none ∧
        listing.query reg type flags names = .error (.unknownType (reg.nameOf base)) := by
  rw [query, query]
  cases hinfo : reg.info type with
  | error e =>
      rw [Registry.typeChain_of_error hinfo, Registry.typeChain_of_error hinfo]
      exact .inl rfl
  | ok info =>
      have hhandle : info.handle = type := hkeyed.handle_eq (Registry.info_eq_ok_iff.mp hinfo)
      rw [Registry.typeChain_of_ok hinfo, Registry.typeChain_of_ok hinfo, Flags.contains_union_self,
        if_pos rfl]
      -- In each case there is a chain that starts at the type, or a base that is missing.
      have hhead : ∀ rest : List TypeInfo,
          (∀ other ∈ rest, other.handle = info.handle → other = info) →
          listing.walk (flags ∪ Flags.declaredOnly) names [info] =
            (listing.walk flags names (info :: rest)).filter (·.declaring == type) := by
        intro rest hsame
        rw [walk_declaredOnly, ← hhandle]
        exact collect_head listing.hides_self hsame
      cases hdeclared : flags.contains Flags.declaredOnly with
      | true =>
          have hnone := hhead [] (fun _ hother => absurd hother List.not_mem_nil)
          exact .inl (congrArg Except.ok hnone)
      | false =>
          cases hrest : reg.infos (reg.bases type) with
          | error e =>
              obtain ⟨base, hbase, hget, rfl⟩ := Registry.exists_of_infos_eq_error hrest
              exact .inr ⟨base, hbase, hget, rfl⟩
          | ok rest =>
              -- A base with the handle of the type is the type once more.
              have hsame : ∀ other ∈ rest, other.handle = info.handle → other = info := by
                intro other hother heq
                obtain ⟨part, -, hpart⟩ := Registry.get_of_infos hrest hother
                rw [← hkeyed.handle_eq hpart, heq, hhandle,
                  Registry.info_eq_ok_iff.mp hinfo] at hpart
                exact (Option.some.inj hpart).symm
              exact .inl (congrArg Except.ok (hhead rest hsame))

end Listing

/-! ### The queries -/

/-- The query for fields is that of their listing. -/
theorem fields_eq : fields = Listing.fields.query := by
  funext reg type flags names
  unfold fields Listing.query
  cases reg.typeChain type flags <;> rfl

/-- The query for properties is that of their listing. -/
theorem properties_eq : properties = Listing.properties.query := by
  funext reg type flags names
  have hwants : Listing.properties.wants flags names = fun p =>
      flags.matchesBinding p.visibility p.isStatic && selects flags names p.name := by
    funext p
    simp [Listing.wants, Listing.properties]
  unfold properties Listing.query Listing.walk
  rw [hwants]
  cases reg.typeChain type flags <;> rfl

/-- The query for methods is that of their listing. -/
theorem methods_eq : methods = Listing.methods.query := by
  funext reg type flags names
  unfold methods Listing.query
  cases reg.typeChain type flags <;> rfl

/-- Names and rules only filter what a query lists. -/
structure Filters (reg : Registry)
    (query : TypeHandle → Flags → List String → Except ReflectError (List (Declared α)))
    (nameOf : α → String) (isBacking : α → Bool) : Prop where
  /-- Names keep the members that match one of them. -/
  names : ∀ type flags names, names ≠ [] →
    query type flags names = (query type flags []).map (List.filter fun d =>
      names.any fun name => flags.matchesName (nameOf d.member) name)
  /-- The rule for declared members keeps those of the type itself. -/
  declaredOnly : ∀ type flags names listed, query type flags names = .ok listed →
    query type (flags ∪ Flags.declaredOnly) names =
      .ok (listed.filter (·.declaring == type))
  /-- It mends no other failure than that of a base that is not published. -/
  failure : ∀ type flags names e, query type flags names = .error e →
    query type (flags ∪ Flags.declaredOnly) names = .error e ∨
      ∃ base ∈ reg.bases type, reg.get base = none ∧ e = .unknownType (reg.nameOf base)
  /-- The rule for backing members leaves these out. -/
  excludeBacking : ∀ type flags names,
    query type (flags ∪ Flags.excludeBackingMembers) names =
      (query type flags names).map (List.filter fun d => !isBacking d.member)

/-- Names and rules only filter the query for one kind of members. -/
theorem Listing.filters (listing : Listing α) {reg : Registry} (hkeyed : reg.Keyed) :
    Filters reg (listing.query reg) listing.nameOf listing.isBacking where
  names type flags _ hnames := listing.query_names reg type flags hnames
  declaredOnly := by
    intro type flags names listed hlisted
    have hdeclared := listing.query_declaredOnly hkeyed type flags names
    rw [hlisted] at hdeclared
    cases hdeclared with
    | inl hfiltered => exact hfiltered
    | inr hmissing =>
        obtain ⟨_, -, -, hfails⟩ := hmissing
        cases hfails
  failure := by
    intro type flags names e hfails
    have hdeclared := listing.query_declaredOnly hkeyed type flags names
    rw [hfails] at hdeclared
    refine hdeclared.imp_right fun hmissing => ?_
    obtain ⟨base, hbase, hget, herror⟩ := hmissing
    exact ⟨base, hbase, hget, Except.error.inj herror⟩
  excludeBacking := listing.query_excludeBacking reg

/-- Names and rules only filter the fields, the properties and the methods of a type, where every
descriptor lies under its own handle. The rule for backing members says nothing of properties. -/
theorem selectors_filter {reg : Registry} (hkeyed : reg.Keyed) :
    Filters reg (fields reg) FieldInfo.name FieldInfo.isBacking ∧
      Filters reg (properties reg) PropertyInfo.name (fun _ => false) ∧
      Filters reg (methods reg) MethodInfo.name MethodInfo.isPropertyAccessor := by
  rw [fields_eq, properties_eq, methods_eq]
  exact ⟨Listing.fields.filters hkeyed, Listing.properties.filters hkeyed,
    Listing.methods.filters hkeyed⟩

/-- A type with a backing field. -/
def lamp : TypeHandle × Registry :=
  Registry.initial.declare (.described "Lamp") <|
    ((Blueprint.reference "Lamp").withField
      (.ofSlot "Lamp" "Watts" "watts" .int32 .int32)).withField
        (.ofSlot "Lamp" "<Color>" "color" .string .string)

/-- A type derived from that one, with a field that hides one of the base. -/
def spotlight : TypeHandle × Registry :=
  lamp.2.declare (.described "Spotlight") <|
    (((Blueprint.reference "Spotlight").extending "Lamp" lamp.1).withField
      (.ofSlot "Spotlight" "Angle" "angle" .int32 .int32)).withField
        (.ofSlot "Spotlight" "Watts" "watts" .int64 .int64)

/-- On the derived type, fields of the base are left out by a name, as members of another type and
as backing fields, and the hidden field of the base does not appear in any case. -/
theorem selectors_filter_spotlight :
    spotlight.2.Keyed ∧ ∃ angle watts color,
      fields spotlight.2 spotlight.1 Flags.standard [] =
        .ok [⟨spotlight.1, angle⟩, ⟨spotlight.1, watts⟩, ⟨lamp.1, color⟩] ∧
      fields spotlight.2 spotlight.1 Flags.standard ["Watts", "<Color>"] =
        .ok [⟨spotlight.1, watts⟩, ⟨lamp.1, color⟩] ∧
      fields spotlight.2 spotlight.1 (Flags.standard ∪ Flags.declaredOnly) [] =
        .ok [⟨spotlight.1, angle⟩, ⟨spotlight.1, watts⟩] ∧
      fields spotlight.2 spotlight.1 (Flags.standard ∪ Flags.excludeBackingMembers) [] =
        .ok [⟨spotlight.1, angle⟩, ⟨spotlight.1, watts⟩] := by
  have hkeyed : spotlight.2.Keyed :=
    Registry.keyed_declare (Registry.keyed_declare Registry.keyed_initial _ _) _ _
  obtain ⟨hfields, -, -⟩ := selectors_filter hkeyed
  have hlisted : fields spotlight.2 spotlight.1 Flags.standard [] = .ok
      [⟨spotlight.1, .ofSlot "Spotlight" "Angle" "angle" .int32 .int32⟩,
        ⟨spotlight.1, .ofSlot "Spotlight" "Watts" "watts" .int64 .int64⟩,
        ⟨lamp.1, .ofSlot "Lamp" "<Color>" "color" .string .string⟩] := rfl
  have hnames := hfields.names spotlight.1 Flags.standard ["Watts", "<Color>"] (by decide)
  have hbacking := hfields.excludeBacking spotlight.1 Flags.standard []
  rw [hlisted] at hnames hbacking
  exact ⟨hkeyed, _, _, _, hlisted, hnames, hfields.declaredOnly _ _ _ _ hlisted, hbacking⟩

end Query

end Introspect

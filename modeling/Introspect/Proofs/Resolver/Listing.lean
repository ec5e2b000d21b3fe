import Introspect.Proofs.Resolver.Chain
import Introspect.Query

/-!
# `Introspect.Proofs.Resolver.Listing`: members in the order of a query

A query walks the type chain and lists what is wanted and not hidden. A longer walk only adds at the
end (`prefix_collect`), what it lists is declared on one of the types (`mem_collect`), and a wanted
member that is not listed has been hidden by one that is (`exists_hiding_collect`).

`find?_collect` is about the first listed member that passes a test. It is declared on a type of the
chain, and the types before that one list nothing that passes.
-/

set_option autoImplicit false

namespace Introspect.Query

variable {α : Type} {members : TypeInfo → List α} {wanted : α → Bool} {hides : α → α → Bool}
  {declaring : TypeHandle} {found : List (Declared α)} {chain : List TypeInfo} {d : Declared α}

/-! ### One type -/

/-- A member is added at the end, if at all. -/
theorem prefix_add (found : List (Declared α)) (member : α) :
    found <+: add wanted hides declaring found member := by
  unfold add
  split
  · exact List.prefix_append _ _
  · exact List.prefix_rfl

/-- The members of a type are added at the end. -/
theorem prefix_foldl_add (found : List (Declared α)) (items : List α) :
    found <+: items.foldl (add wanted hides declaring) found := by
  induction items generalizing found with
  | nil => exact List.prefix_rfl
  | cons item rest ih => exact (prefix_add found item).trans (ih _)

/-- What a type adds is one of its members, and wanted. -/
theorem mem_foldl_add {items : List α} (h : d ∈ items.foldl (add wanted hides declaring) found) :
    d ∈ found ∨ (d.declaring = declaring ∧ d.member ∈ items ∧ wanted d.member = true) := by
  induction items generalizing found with
  | nil => exact .inl h
  | cons item rest ih =>
      cases ih h with
      | inr hrest => exact .inr ⟨hrest.1, .tail _ hrest.2.1, hrest.2.2⟩
      | inl hadded =>
          unfold add at hadded
          split at hadded
          · next hcondition =>
              simp only [Bool.and_eq_true] at hcondition
              cases List.mem_append.mp hadded with
              | inl hold => exact .inl hold
              | inr hnew =>
                  obtain rfl : d = ⟨declaring, item⟩ := by simpa using hnew
                  exact .inr ⟨rfl, List.mem_cons_self, hcondition.1⟩
          · exact .inl hadded

/-- A wanted member of a type is listed, or hidden by one that is. -/
theorem exists_hiding_foldl_add (hrefl : ∀ a, hides a a = true) {items : List α} {item : α}
    (hitem : item ∈ items) (hwanted : wanted item = true) :
    ∃ d ∈ items.foldl (add wanted hides declaring) found, hides d.member item = true := by
  induction items generalizing found with
  | nil => cases hitem
  | cons first rest ih =>
      cases hitem with
      | tail _ hrest => exact ih hrest
      | head =>
          obtain ⟨d, hd, hhides⟩ : ∃ d ∈ add wanted hides declaring found item,
              hides d.member item = true := by
            unfold add
            by_cases hhidden : found.any (fun earlier => hides earlier.member item) = true
            · obtain ⟨d, hd, hhides⟩ := List.any_eq_true.mp hhidden
              exact ⟨d, by simp [hhidden, hd], hhides⟩
            · exact ⟨⟨declaring, item⟩, by simp [hwanted, hhidden], hrefl item⟩
          exact ⟨d, (prefix_foldl_add _ rest).subset hd, hhides⟩

/-! ### A chain of types -/

/-- A longer walk adds at the end. -/
theorem prefix_collect (chain : List TypeInfo) (found : List (Declared α)) :
    found <+: collect members wanted hides chain found := by
  induction chain generalizing found with
  | nil => exact List.prefix_rfl
  | cons info rest ih => exact (prefix_foldl_add found (members info)).trans (ih _)

/-- A wanted member of a chain is listed, or hidden by one that is. -/
theorem exists_hiding_collect (hrefl : ∀ a, hides a a = true) {info : TypeInfo} {item : α}
    (hinfo : info ∈ chain) (hitem : item ∈ members info) (hwanted : wanted item = true) :
    ∃ d ∈ collect members wanted hides chain found, hides d.member item = true := by
  induction chain generalizing found with
  | nil => cases hinfo
  | cons first rest ih =>
      cases hinfo with
      | tail _ hrest => exact ih hrest
      | head =>
          obtain ⟨d, hd, hhides⟩ := exists_hiding_foldl_add hrefl hitem hwanted
          exact ⟨d, (prefix_collect rest _).subset hd, hhides⟩

/-- The first listed member that passes a test is declared on a type of the chain, and the types
before that one list nothing that passes. -/
theorem find?_collect {test : Declared α → Bool} (hbefore : found.find? test = none)
    (h : (collect members wanted hides chain found).find? test = some d) :
    ∃ front info back, chain = front ++ info :: back ∧
      (∀ other ∈ collect members wanted hides front found, test other = false) ∧
      d.declaring = info.handle ∧ d.member ∈ members info ∧ wanted d.member = true ∧
      test d = true := by
  induction chain generalizing found with
  | nil => exact absurd (h.symm.trans hbefore) (by simp)
  | cons info rest ih =>
      cases hinfo : ((members info).foldl (add wanted hides info.handle) found).find? test with
      | none =>
          obtain ⟨front, other, back, rfl, hfront, hd⟩ := ih hinfo h
          exact ⟨info :: front, other, back, rfl, hfront, hd⟩
      | some first =>
          -- What is found among the first types stays the first that is found.
          have hlater : (members info).foldl (add wanted hides info.handle) found <+:
              collect members wanted hides (info :: rest) found := prefix_collect rest _
          have hfirst := hlater.find?_eq_some hinfo
          obtain rfl : first = d := Option.some.inj (hfirst.symm.trans h)
          have htest : test first = true := List.find?_some hinfo
          have hfront : ∀ other ∈ found, test other = false := by
            simpa using List.find?_eq_none.mp hbefore
          obtain ⟨hdeclaring, hmember, hwanted⟩ : first.declaring = info.handle ∧
              first.member ∈ members info ∧ wanted first.member = true := by
            cases mem_foldl_add (List.mem_of_find?_eq_some hinfo) with
            | inl hold => exact absurd htest (by simp [hfront first hold])
            | inr hnew => exact hnew
          exact ⟨[], info, rest, rfl, hfront, hdeclaring, hmember, hwanted, htest⟩

/-! ### Methods -/

variable {reg : Registry} {type : TypeHandle} {flags : Flags} {name : String}

/-- Whether a query for a name lists a method. -/
def wantsMethod (flags : Flags) (name : String) (method : MethodInfo) : Bool :=
  flags.matchesBinding method.visibility method.isStatic &&
    !(skipsBacking flags && method.isPropertyAccessor) && selects flags [name] method.name

/-- Whether a method hides another one. -/
def hidesMethod (method other : MethodInfo) : Bool :=
  method.name == other.name && method.paramTypes == other.paramTypes

/-- A method query is one walk along the chain. -/
theorem methods_eq_ok_iff {listed : List (Declared MethodInfo)} :
    methods reg type flags [name] = .ok listed ↔
      ∃ chain, reg.typeChain type flags = .ok chain ∧
        listed = collect TypeInfo.methods (wantsMethod flags name) hidesMethod chain [] := by
  unfold methods
  cases reg.typeChain type flags with
  | error e => simp [bind, Except.bind]
  | ok chain =>
      simp only [bind, Except.bind, pure, Except.pure, Except.ok.injEq, exists_eq_left']
      exact eq_comm

end Introspect.Query

import Introspect.Proofs.Registry.Standing

/-!
# `Introspect.Proofs.Registry.Closure`: no descriptor mentions a type that is not published

A list of trees stands for an array type. When it is asked for first, and the description of a tree
asks for it again, the tree stores the handle that was reserved for the list, and that handle is
lost once the array type takes its place.

So a request is in turn (`InTurn`) when no native type is asked for that is being described and
stands for an array type. `answered_requestUpTo` carries the invariant of
`Introspect.Proofs.Registry.Standing` through requests that are in turn. The number of types under
description shows on the way that the limit of a request is never reached (`Room`). In a family
whose descriptions ask for no list, all requests are in turn (`grown_requestAll`).

`closed_atRest` is the main result: between requests, every type that a descriptor mentions is
published, and every description that is run again asks for the same types, changes nothing and says
the same. `list_of_trees_dangles` is an instance where a list is asked for out of turn.
-/

set_option autoImplicit false

namespace Introspect

/-- The description asks for no list, whatever it is answered. -/
def Description.ListFree {α : Type} : Description α → Prop
  | done _ => True
  | request native next => native.isList = false ∧ ∀ type, (next type).ListFree
  | arrayOf _ next => ∀ type, (next type).ListFree

/-- No description of the family asks for a list, or stands for an array type. -/
def Family.ListFree (family : Family) : Prop :=
  ∀ native description, family.lookup native = some description →
    description.ListFree ∧ description.All fun b => b.element = none

/-- The requests of a description are in turn, given how they are answered and which are in turn. -/
def Description.InTurn {α : Type} (answer : NativeType → Registry → TypeHandle × Registry)
    (inTurn : NativeType → Registry → Prop) : Description α → Registry → Prop
  | done _, _ => True
  | request native next, reg =>
    inTurn native reg ∧
      (next (answer native reg).1).InTurn answer inTurn (answer native reg).2
  | arrayOf element next, reg =>
    (next (reg.arrayOf element).1).InTurn answer inTurn (reg.arrayOf element).2

namespace Registry

variable {family : Family} {reg next : Registry} {native : NativeType}
  {type element array handle : TypeHandle} {b : Blueprint} {limit : Nat}

/-! ### Requests that are in turn -/

/-- A request is in turn, given when the description of a native type is that is neither known nor a
list. -/
def inTurnWith (family : Family) (inTurn : NativeType → Registry → Prop) :
    NativeType → Registry → Prop
  | .list element, reg =>
    match reg.known (.list element) with
    | some _ => reg.Sure family (.list element)
    | none => inTurnWith family inTurn element (reg.reserve (.list element)).2
  | native, reg =>
    match reg.known native with
    | some _ => reg.Sure family native
    | none => inTurn native reg

/-- A request is in turn while at most `limit` more types can be under description. -/
def inTurnUpTo (family : Family) : Nat → NativeType → Registry → Prop
  | 0 => inTurnWith family fun _ _ => True
  | limit + 1 => inTurnWith family fun native reg =>
    ∀ description, family.lookup native = some description →
      description.InTurn (requestUpTo family limit) (inTurnUpTo family limit) (reg.reserve native).2

/-- No native type is asked for on the way that is being described and stands for an array type. -/
def InTurn (family : Family) (native : NativeType) (reg : Registry) : Prop :=
  inTurnUpTo family family.length native reg

section Equations

variable {description : Description Blueprint}

/-- A known native type is answered without any change. -/
theorem requestUpTo_of_known (family : Family) (limit : Nat) (h : reg.known native = some type) :
    requestUpTo family limit native reg = (type, reg) := by
  cases limit <;> cases native <;> simp [requestUpTo, requestWith, h]

/-- Such a request is in turn when the native type keeps its handle. -/
theorem inTurnUpTo_of_known (family : Family) (limit : Nat) (h : reg.known native = some type) :
    inTurnUpTo family limit native reg ↔ reg.Sure family native := by
  cases limit <;> cases native <;> simp [inTurnUpTo, inTurnWith, h]

/-- A list that is not known asks for the type of its items. -/
theorem requestUpTo_list {item : NativeType} (family : Family) (limit : Nat)
    (h : reg.known (.list item) = none) :
    requestUpTo family limit (.list item) reg =
      (requestUpTo family limit item (reg.reserve (.list item)).2).2.settle (.list item)
        (reg.reserve (.list item)).1
        (.arrayOf (requestUpTo family limit item (reg.reserve (.list item)).2).1) := by
  cases limit <;> simp [requestUpTo, requestWith, h]

/-- Such a request is in turn when that for the items is. -/
theorem inTurnUpTo_list {item : NativeType} (family : Family) (limit : Nat)
    (h : reg.known (.list item) = none) :
    inTurnUpTo family limit (.list item) reg ↔
      inTurnUpTo family limit item (reg.reserve (.list item)).2 := by
  cases limit <;> simp [inTurnUpTo, inTurnWith, h]

/-- Any other native type that is not known is described. -/
theorem requestUpTo_described (limit : Nat) (h : reg.known native = none)
    (hlist : native.isList = false) (hdescribed : family.lookup native = some description) :
    requestUpTo family (limit + 1) native reg =
      (description.run (requestUpTo family limit) (reg.reserve native).2).2.settle native
        (reg.reserve native).1
        (description.run (requestUpTo family limit) (reg.reserve native).2).1 := by
  cases native with
  | list item => cases hlist
  | _ => simp [requestUpTo, requestWith, h, hdescribed]

/-- Such a request is in turn when those of the description are. -/
theorem inTurnUpTo_described (family : Family) (limit : Nat) (h : reg.known native = none)
    (hlist : native.isList = false) :
    inTurnUpTo family (limit + 1) native reg ↔
      ∀ description, family.lookup native = some description →
        description.InTurn (requestUpTo family limit) (inTurnUpTo family limit)
          (reg.reserve native).2 := by
  cases native with
  | list item => cases hlist
  | _ => simp [inTurnUpTo, inTurnWith, h]

/-- At the end of the limit nothing is described. -/
theorem inTurnUpTo_zero (family : Family) (h : reg.known native = none)
    (hlist : native.isList = false) : inTurnUpTo family 0 native reg := by
  cases native with
  | list item => cases hlist
  | _ => simp [inTurnUpTo, inTurnWith, h]

end Equations

/-! ### The limit of a request -/

/-- The limit is enough for all native types that are not under description yet. Lists count for
nothing. -/
def Room (family : Family) (limit : Nat) (reg : Registry) : Prop :=
  family.length ≤ (reg.pending.filter fun entry => !entry.1.isList).length + limit

/-- The limit is enough for the same descriptions under way. -/
theorem Room.of_pending_eq (h : Room family limit reg) (hpending : next.pending = reg.pending) :
    Room family limit next := by
  rwa [Room, hpending]

/-- A list may be described without any limit. -/
theorem Room.reserve_list {item : NativeType} (h : Room family limit reg) :
    Room family limit (reg.reserve (.list item)).2 := h

/-- Any other native type takes one from the limit. -/
theorem Room.reserve (h : Room family (limit + 1) reg) (hlist : native.isList = false) :
    Room family limit (reg.reserve native).2 := by
  have hpending : (reg.reserve native).2.pending.filter (fun entry => !entry.1.isList) =
      (native, (reg.reserve native).1) :: reg.pending.filter fun entry => !entry.1.isList :=
    List.filter_cons_of_pos (by simp [hlist])
  rw [Room, hpending, List.length_cons]
  rw [Room] at h
  omega

/-- While a native type of the family is not under description, the limit is not used up. -/
theorem Intact.not_room_zero (h : Intact family reg) (hledger : reg.Ledger)
    (hunknown : reg.known native = none) (hdescribed : (family.lookup native).isSome = true) :
    ¬ Room family 0 reg := by
  -- The native type and those under description are different keys of the family.
  let others := (reg.pending.filter fun entry => !entry.1.isList).map Prod.fst
  have hnodup : (native :: others).Nodup := by
    refine List.nodup_cons.mpr ⟨fun hmem => ?_, hledger.once.sublist (List.filter_sublist.map _)⟩
    obtain ⟨entry, hentry, heq⟩ := List.mem_map.mp hmem
    exact ne_of_lookup_eq_none (lookup_pending_of_unknown hunknown) (List.mem_of_mem_filter hentry)
      heq
  have hkey : ∀ {other}, (family.lookup other).isSome = true → other ∈ family.map Prod.fst := by
    intro other hother
    obtain ⟨description, hfound⟩ := Option.isSome_iff_exists.mp hother
    obtain ⟨front, back, hfamily, -⟩ := List.lookup_eq_some_iff.mp hfound
    simp [hfamily]
  have hsubset : native :: others ⊆ family.map Prod.fst := by
    refine List.cons_subset.mpr ⟨hkey hdescribed, fun other hmem => ?_⟩
    obtain ⟨entry, hentry, rfl⟩ := List.mem_map.mp hmem
    obtain ⟨hpending, hother⟩ := List.mem_filter.mp hentry
    rcases h.covered entry hpending with hisList | hfound
    · simp [hisList] at hother
    · exact hkey hfound
  have hlength := (hnodup.subperm hsubset).length_le
  simp only [List.length_cons, List.length_map, others] at hlength
  rw [Room]
  omega

/-! ### Requests keep the registry intact -/

/-- A description has been run: the registry is still intact, and the description can be run again
and mentions handles that stand only. -/
structure Ran (family : Family) (description : Description Blueprint) (reg : Registry)
    (out : Blueprint × Registry) : Prop where
  intact : Intact family out.2
  later : Later family reg out.2
  replays : description.Replays family out.2 out.1
  stands : ∀ handle ∈ out.1.handles, out.2.Stands family handle

/-- The requests that are made up to a limit keep the registry intact. -/
def AnswersUpTo (family : Family) (limit : Nat) : Prop :=
  ∀ native reg, Intact family reg → Room family limit reg → family.Covers native →
    inTurnUpTo family limit native reg →
    (requestUpTo family limit native reg).2.issued ≤ UInt64.size →
    Answered family native reg (requestUpTo family limit native reg)

/-- A description whose requests are answered well is run. -/
theorem AnswersUpTo.run (hanswers : AnswersUpTo family limit) (description : Description Blueprint)
    {known : List TypeHandle} (hhonest : description.Honest family known) (h : Intact family reg)
    (hroom : Room family limit reg) (hknown : ∀ handle ∈ known, reg.Stands family handle)
    (hturn : description.InTurn (requestUpTo family limit) (inTurnUpTo family limit) reg)
    (hleft : (description.run (requestUpTo family limit) reg).2.issued ≤ UInt64.size) :
    Ran family description reg (description.run (requestUpTo family limit) reg) := by
  have hmoved := traced_moved.requestUpTo family limit
  -- By induction on the description; what it knows of grows by each answer.
  induction description generalizing reg known with
  | done b =>
      exact ⟨h, .refl family reg, .done b, fun handle hhandle => hknown handle (hhonest hhandle)⟩
  | request native next ih =>
      obtain ⟨hcovers, hhonest⟩ := hhonest
      obtain ⟨hfirst, hturn⟩ := hturn
      let answer := requestUpTo family limit native reg
      -- Handles are only given out, so they have not run out under way.
      have hissued : answer.2.issued ≤ UInt64.size :=
        Nat.le_trans (traced_moved.run hmoved (next answer.1) answer.2).issued_le hleft
      have hanswered := hanswers native reg h hroom hcovers hfirst hissued
      have hran := ih answer.1 (hhonest answer.1) hanswered.intact
        (hroom.of_pending_eq (hmoved native reg).2) (fun handle hhandle => ?_) hturn hleft
      · exact ⟨hran.intact, hanswered.later.trans hran.later,
          .request (hran.later.lasting _ _ hanswered.lasting) hran.replays, hran.stands⟩
      · rcases List.mem_cons.mp hhandle with rfl | hold
        · exact hanswered.stands
        · exact hanswered.later.stands handle (hknown handle hold)
  | arrayOf element next ih =>
      obtain ⟨helement, hhonest⟩ := hhonest
      let answer := reg.arrayOf element
      have hissued : answer.2.issued ≤ UInt64.size :=
        Nat.le_trans (traced_moved.run hmoved (next answer.1) answer.2).issued_le hleft
      have hmade := h.arrayOf (hknown element helement) hissued
      have hlater : Later family reg answer.2 :=
        later_arrayOf (h.reached.ledger (Nat.le_trans (issued_le_arrayOf reg element) hissued))
          element hissued
      have hran := ih answer.1 (hhonest answer.1) hmade
        (hroom.of_pending_eq (pending_arrayOf reg element)) (fun handle hhandle => ?_) hturn hleft
      · exact ⟨hran.intact, hlater.trans hran.later,
          .arrayOf (hran.later.arrays _ _ (lookup_arrayOf reg element)) hran.replays, hran.stands⟩
      · rcases List.mem_cons.mp hhandle with rfl | hold
        · exact hmade.stands_array hissued (lookup_arrayOf reg element)
        · exact hlater.stands handle (hknown handle hold)

/-- A list that is asked for in turn, if its items are. -/
theorem answered_list {item : NativeType} (hunknown : reg.known (.list item) = none)
    (hitem : Answered family item (reg.reserve (.list item)).2
      (requestUpTo family limit item (reg.reserve (.list item)).2))
    (hleft : (requestUpTo family limit (.list item) reg).2.issued ≤ UInt64.size) :
    Answered family (.list item) reg (requestUpTo family limit (.list item) reg) := by
  have hpending := (traced_moved.requestUpTo family limit item (reg.reserve (.list item)).2).2
  rw [requestUpTo_list family limit hunknown] at hleft ⊢
  -- The description of a list is its request for the items.
  have hsettled := hitem.intact.settle hpending rfl (.request hitem.lasting (.done _))
    (fun handle hhandle => ?_) hleft
  · exact ⟨hsettled.intact, (later_reserve hunknown).trans (hitem.later.trans hsettled.later),
      hsettled.lasting⟩
  · obtain rfl := List.mem_singleton.mp hhandle
    exact hitem.stands

/-- A native type of the family that is asked for in turn. -/
theorem AnswersUpTo.described (hanswers : AnswersUpTo family limit) (hclosed : family.Closed)
    (h : Intact family reg) (hroom : Room family (limit + 1) reg)
    (hunknown : reg.known native = none) (hlist : native.isList = false)
    (hdescribed : (family.lookup native).isSome = true)
    (hturn : inTurnUpTo family (limit + 1) native reg)
    (hleft : (requestUpTo family (limit + 1) native reg).2.issued ≤ UInt64.size) :
    Answered family native reg (requestUpTo family (limit + 1) native reg) := by
  obtain ⟨description, hdescription⟩ := Option.isSome_iff_exists.mp hdescribed
  have hpending := (traced_moved.run (traced_moved.requestUpTo family limit) description
    (reg.reserve native).2).2
  rw [requestUpTo_described limit hunknown hlist hdescription] at hleft ⊢
  have hran := hanswers.run description (hclosed native description hdescription)
    (h.reserve hunknown (.inr hdescribed)) (hroom.reserve hlist)
    (fun handle hhandle => ?_)
    ((inTurnUpTo_described family limit hunknown hlist).mp hturn description hdescription)
    (Nat.le_trans (issued_le_settle _ _ _ _) hleft)
  · have hsettled := hran.intact.settle hpending
      ((Family.describe_of_not_list hlist).trans hdescription) hran.replays hran.stands hleft
    exact ⟨hsettled.intact, (later_reserve hunknown).trans (hran.later.trans hsettled.later),
      hsettled.lasting⟩
  · obtain ⟨root, hroot, rfl⟩ := List.mem_map.mp hhandle
    exact .inl (h.roots root hroot)

/-- A known native type that is asked for in turn. -/
theorem Intact.answered_known (h : Intact family reg) (hknown : reg.known native = some type)
    (hturn : inTurnUpTo family limit native reg) :
    Answered family native reg (requestUpTo family limit native reg) := by
  rw [requestUpTo_of_known family limit hknown]
  exact ⟨h, .refl family reg, hknown, (inTurnUpTo_of_known family limit hknown).mp hturn⟩

/-- Requests are answered well if those for native types of the family are. -/
theorem answersUpTo_of_described
    (hdescribed : ∀ native reg, Intact family reg → Room family limit reg →
      reg.known native = none → native.isList = false → (family.lookup native).isSome = true →
      inTurnUpTo family limit native reg →
      (requestUpTo family limit native reg).2.issued ≤ UInt64.size →
      Answered family native reg (requestUpTo family limit native reg)) :
    AnswersUpTo family limit := by
  have hother : ∀ native : NativeType, native.isList = false → ∀ reg, Intact family reg →
      Room family limit reg → family.Covers native → inTurnUpTo family limit native reg →
      (requestUpTo family limit native reg).2.issued ≤ UInt64.size →
      Answered family native reg (requestUpTo family limit native reg) := by
    intro native hlist reg h hroom hcovers hturn hleft
    cases hknown : reg.known native with
    | some type => exact h.answered_known hknown hturn
    | none =>
        refine hdescribed native reg h hroom hknown hlist ?_ hturn hleft
        -- What is not known is not built in, so the family describes it.
        refine ((Family.covers_of_not_list hlist).mp hcovers).resolve_left fun hbuiltin => ?_
        obtain ⟨type, htype⟩ := Option.isSome_iff_exists.mp hbuiltin
        cases (lookup_natives_of_unknown hknown).symm.trans (h.builtin native type htype)
  intro native
  -- Lists of lists are asked for up to the same limit, so the induction is on the native type.
  induction native with
  | list item ih =>
      intro reg h hroom hcovers hturn hleft
      cases hknown : reg.known (.list item) with
      | some type => exact h.answered_known hknown hturn
      | none =>
          refine answered_list hknown (ih _ (h.reserve hknown (.inl rfl)) hroom.reserve_list hcovers
            ((inTurnUpTo_list family limit hknown).mp hturn) ?_) hleft
          rw [requestUpTo_list family limit hknown] at hleft
          exact Nat.le_trans (issued_le_settle _ _ _ _) hleft
  | _ => exact hother _ rfl

/-- Requests that are in turn keep the registry intact, in a family whose descriptions mention only
what they have asked for. -/
theorem answered_requestUpTo (hclosed : family.Closed) (limit : Nat) :
    AnswersUpTo family limit := by
  induction limit with
  | zero =>
      -- The limit is never used up.
      refine answersUpTo_of_described fun native reg h hroom hunknown _ hdescribed _ hleft => ?_
      refine absurd hroom (h.not_room_zero (h.reached.ledger ?_) hunknown hdescribed)
      exact Nat.le_trans (traced_moved.requestUpTo family 0 native reg).issued_le hleft
  | succ limit ih =>
      exact answersUpTo_of_described fun native reg h hroom hunknown hlist hdescribed hturn hleft =>
        ih.described hclosed h hroom hunknown hlist hdescribed hturn hleft

/-! ### Registries between requests -/

/-- A registry after any number of requests that were in turn, for types that can be described and
for array types of published types. -/
inductive Grown (family : Family) : Registry → Prop
  | initial : Grown family .initial
  | request {reg : Registry} {native : NativeType} : Grown family reg → family.Covers native →
      InTurn family native reg → Grown family (request family native reg).2
  | arrayOf {reg : Registry} {element : TypeHandle} : Grown family reg →
      (reg.get element).isSome = true → Grown family (reg.arrayOf element).2

/-- Such a registry is at rest. -/
theorem Grown.atRest (h : Grown family reg) : AtRest family reg := by
  induction h with
  | initial => exact .initial
  | request _ _ _ ih => exact ih.request _
  | arrayOf _ _ ih => exact ih.arrayOf _

/-- Such a registry is intact while handles are left. -/
theorem Grown.intact (h : Grown family reg) (hclosed : family.Closed)
    (hleft : reg.issued ≤ UInt64.size) : Intact family reg := by
  induction h with
  | initial => exact intact_initial family
  | @request reg native hgrown hcovers hturn ih =>
      have hintact := ih (Nat.le_trans (moved_request family native reg).issued_le hleft)
      have hroom : Room family family.length reg := Nat.le_add_left _ _
      exact (answered_requestUpTo hclosed _ native reg hintact hroom hcovers hturn hleft).intact
  | @arrayOf reg element hgrown hpublished ih =>
      have hintact := ih (Nat.le_trans (issued_le_arrayOf reg element) hleft)
      exact hintact.arrayOf (.inl hpublished) hleft

/-! ### Families without lists -/

/-- A native type that a family without lists describes does not stand for an array type. -/
theorem plain_of_listFree (hfree : family.ListFree) (hlist : native.isList = false)
    (hdescribed : (family.lookup native).isSome = true) : family.Plain native := by
  obtain ⟨description, hdescription⟩ := Option.isSome_iff_exists.mp hdescribed
  exact ⟨description, (Family.describe_of_not_list hlist).trans hdescription,
    (hfree native description hdescription).2⟩

/-- A native type that is known keeps its handle, unless it is a list. -/
theorem inTurnUpTo_of_listFree_known (hfree : family.ListFree) (limit : Nat)
    (hlist : native.isList = false) (hcovered : reg.Covered family)
    (hknown : reg.known native = some type) : inTurnUpTo family limit native reg := by
  refine (inTurnUpTo_of_known family limit hknown).mpr ?_
  rcases Option.or_eq_some_iff.mp hknown with hfound | ⟨-, hfound⟩
  · exact .inl (by simp [hfound])
  · obtain ⟨front, back, hpending, -⟩ := List.lookup_eq_some_iff.mp hfound
    rcases hcovered (native, type) (by simp [hpending]) with hisList | hdescribed
    · simp [hlist] at hisList
    · exact .inr (plain_of_listFree hfree hlist hdescribed)

/-- A description that asks for no list is in turn if its requests for other native types are. -/
theorem inTurn_of_listFree_description {description : Description Blueprint}
    (hdescription : description.ListFree)
    (hrequests : ∀ native reg, native.isList = false → reg.Covered family →
      inTurnUpTo family limit native reg)
    (hcovered : reg.Covered family) :
    description.InTurn (requestUpTo family limit) (inTurnUpTo family limit) reg := by
  induction description generalizing reg with
  | done b => exact trivial
  | request native next ih =>
      obtain ⟨hlist, hnext⟩ := hdescription
      have hpending := (traced_moved.requestUpTo family limit native reg).2
      exact ⟨hrequests native reg hlist hcovered, ih _ (hnext _) (hcovered.of_pending_eq hpending)⟩
  | arrayOf element next ih =>
      exact ih _ (hdescription _) (hcovered.of_pending_eq (pending_arrayOf reg element))

/-- Whatever is under description, a native type that is not a list can be asked for. -/
theorem inTurnUpTo_of_listFree (hfree : family.ListFree) (limit : Nat)
    (hlist : native.isList = false) (hcovered : reg.Covered family) :
    inTurnUpTo family limit native reg := by
  induction limit generalizing native reg with
  | zero =>
      cases hknown : reg.known native with
      | some type => exact inTurnUpTo_of_listFree_known hfree _ hlist hcovered hknown
      | none => exact inTurnUpTo_zero family hknown hlist
  | succ limit ih =>
      cases hknown : reg.known native with
      | some type => exact inTurnUpTo_of_listFree_known hfree _ hlist hcovered hknown
      | none =>
          refine (inTurnUpTo_described family limit hknown hlist).mpr fun description hfound => ?_
          exact inTurn_of_listFree_description (hfree native description hfound).1
            (fun native reg hlist hcovered => ih hlist hcovered)
            (hcovered.reserve (.inr (by simp [hfound])))

/-- Any native type can be asked for while there are only lists under description that are
larger. -/
theorem inTurnUpTo_of_larger (hfree : family.ListFree) (limit : Nat)
    (hlarger : ∀ entry ∈ reg.pending, entry.1.isList = true ∧ sizeOf native < sizeOf entry.1) :
    inTurnUpTo family limit native reg := by
  have hother : ∀ native : NativeType, native.isList = false → ∀ reg : Registry,
      (∀ entry ∈ reg.pending, entry.1.isList = true ∧ sizeOf native < sizeOf entry.1) →
      inTurnUpTo family limit native reg := fun native hlist reg hlarger =>
    inTurnUpTo_of_listFree hfree limit hlist fun entry hentry => .inl (hlarger entry hentry).1
  induction native generalizing reg with
  | list item ih =>
      cases hknown : reg.known (.list item) with
      | some type =>
          refine (inTurnUpTo_of_known family limit hknown).mpr (.inl ?_)
          rcases Option.or_eq_some_iff.mp hknown with hfound | ⟨-, hfound⟩
          · simp [hfound]
          · -- A list is not larger than itself.
            obtain ⟨front, back, hpending, -⟩ := List.lookup_eq_some_iff.mp hfound
            have hself := hlarger (.list item, type) (by simp [hpending])
            exact absurd hself.2 (Nat.lt_irrefl _)
      | none =>
          refine (inTurnUpTo_list family limit hknown).mpr (ih fun entry hentry => ?_)
          rcases List.mem_cons.mp hentry with rfl | hold
          · exact ⟨rfl, by simp⟩
          · obtain ⟨hlist, hlt⟩ := hlarger entry hold
            exact ⟨hlist, Nat.lt_trans (by simp) hlt⟩
  | _ => exact hother _ rfl _ hlarger

/-- In a family without lists all requests are in turn, so any types that can be described are asked
for in any order. -/
theorem grown_requestAll (hfree : family.ListFree) (natives : List NativeType)
    (hcovers : ∀ native ∈ natives, family.Covers native) (h : Grown family reg) :
    Grown family (requestAll family natives reg) := by
  induction natives generalizing reg with
  | nil => exact h
  | cons native rest ih =>
      refine ih (fun other hother => hcovers other (.tail _ hother))
        (h.request (hcovers native List.mem_cons_self) ?_)
      refine inTurnUpTo_of_larger hfree family.length fun entry hentry => ?_
      simp [h.atRest.pending_eq] at hentry

/-- A description that can be run again without a change ends as it did. -/
theorem run_of_replays {description : Description Blueprint}
    (h : description.Replays family reg b) : description.run (request family) reg = (b, reg) := by
  induction h with
  | done b => rfl
  | request hlasting _ ih =>
      rw [Description.run, request_of_known family _ reg _ hlasting.known]
      exact ih
  | arrayOf hknown _ ih =>
      rw [Description.run, arrayOf_of_known hknown]
      exact ih

/-- At rest, a handle that stands is that of a published type. -/
theorem Stands.isSome (h : reg.Stands family handle) (hpending : reg.pending = []) :
    (reg.get handle).isSome = true := by
  rcases h with hpublished | ⟨native, hfound, -⟩
  · exact hpublished
  · simp [hpending] at hfound

/-- What descriptors mention between requests, for every family whose descriptions mention only
types that they have asked for, and every order of requests that are in turn.

* Every handle in a descriptor is that of a published type.
* A published type is built in, or a request for its element or for a native type is answered with
  it.
* A known native type is asked for without any change, and its description can be run again: it is
  given the same handles, and says what the type was published as, or which array type it is. -/
theorem closed_atRest (hclosed : family.Closed) (h : Grown family reg)
    (hleft : reg.issued ≤ UInt64.size) :
    (∀ type info, reg.get type = some info → ∀ handle ∈ info.handles,
      (reg.get handle).isSome = true) ∧
    (∀ type info, reg.get type = some info → (∃ root ∈ builtins, root.handle = type) ∨
      (∃ element, info.element = some element ∧ reg.arrayOf element = (type, reg)) ∨
      ∃ native, request family native reg = (type, reg)) ∧
    (∀ native type, reg.natives.lookup native = some type →
      request family native reg = (type, reg) ∧
      (initial.natives.lookup native = some type ∨
        ∃ description b, family.describe native = some description ∧
          description.run (request family) reg = (b, reg) ∧ reg.Says type b)) := by
  have hintact := h.intact hclosed hleft
  have hknown : ∀ {native type}, reg.natives.lookup native = some type →
      request family native reg = (type, reg) := fun {native type} hfound =>
    request_of_known family native reg type (known_of_natives hfound)
  refine ⟨fun type info hinfo handle hhandle => ?mentioned, fun type info hinfo => ?origin,
    fun native type hfound => ⟨hknown hfound, ?said⟩⟩
  case mentioned =>
    exact (hintact.mentions type info hinfo handle hhandle).isSome h.atRest.pending_eq
  case origin =>
    refine (hintact.origin type info hinfo).imp_right (Or.imp (fun hsome => ?_) fun hnative => ?_)
    · obtain ⟨element, helement⟩ := Option.isSome_iff_exists.mp hsome
      exact ⟨element, helement, arrayOf_of_known
        ((h.atRest.reached.ledger hleft).elements type info element hinfo helement)⟩
    · obtain ⟨native, hfound⟩ := hnative
      exact ⟨native, hknown hfound⟩
  case said =>
    refine (hintact.natives native type hfound).2.imp_right fun htold => ?_
    obtain ⟨description, b, hdescribed, hreplays, hsays⟩ := htold
    exact ⟨description, b, hdescribed, run_of_replays hreplays, hsays⟩

/-- Trees have children of their own kind. They ask for the array type of trees, or for the type of
a list of trees. -/
def trees (viaList : Bool) : Family :=
  [(.described "Tree", do
    let tree ← Description.typeOf (.described "Tree")
    let children ←
      if viaList then Description.typeOf (.list (.described "Tree")) else Description.arrayType tree
    return (Blueprint.reference "Tree").withField (.constant "Children" children .null))]

/-- The registry after a list of trees was asked for, and trees through it. -/
def grove (viaList : Bool) : Registry :=
  (request (trees viaList) (.list (.described "Tree")) .initial).2

/-- Trees mention only what they have asked for, either way. -/
theorem closed_trees (viaList : Bool) : (trees viaList).Closed := by
  intro native description hfound
  rw [trees, List.lookup_cons] at hfound
  split at hfound
  · obtain rfl := Option.some.inj hfound
    have hlast : ∀ tree children known, Description.Honest (trees viaList)
        (children :: tree :: known)
        (.done ((Blueprint.reference "Tree").withField (.constant "Children" children .null))) :=
      fun tree children known handle hhandle => List.mem_singleton.mp hhandle ▸ List.mem_cons_self
    cases viaList with
    | false => exact ⟨.inr rfl, fun tree => ⟨List.mem_cons_self, fun children => hlast _ _ _⟩⟩
    | true => exact ⟨.inr rfl, fun tree => ⟨.inr rfl, fun children => hlast _ _ _⟩⟩
  · cases hfound

/-- Trees that ask for the array type of trees ask for no list, so a list of trees is in turn. -/
theorem grown_grove : Grown (trees false) (grove false) := by
  have hfree : (trees false).ListFree := by
    intro native description hfound
    rw [trees, List.lookup_cons] at hfound
    split at hfound
    · obtain rfl := Option.some.inj hfound
      exact ⟨⟨rfl, fun _ _ => trivial⟩, fun _ _ => rfl⟩
    · cases hfound
  refine grown_requestAll hfree [.list (.described "Tree")] (fun native hnative => ?_) .initial
  obtain rfl := List.mem_singleton.mp hnative
  exact .inr rfl

/-- The array type of trees is asked for under way, and is the one that the list stands for. -/
theorem closed_atRest_grove :
    ∃ tree children info, (trees false).Closed ∧ Grown (trees false) (grove false) ∧
      (grove false).issued ≤ UInt64.size ∧ (grove false).get tree = some info ∧
      children ∈ info.handles ∧ ((grove false).get children).isSome = true ∧
      request (trees false) (.list (.described "Tree")) (grove false) =
        (children, grove false) := by
  have hleft : (grove false).issued ≤ UInt64.size := by decide
  obtain ⟨info, hinfo, hmentioned⟩ : ∃ info, (grove false).get (.ofIndex 9) = some info ∧
      TypeHandle.ofIndex 10 ∈ info.handles := ⟨_, rfl, by decide⟩
  obtain ⟨hpublished, -, hknown⟩ := closed_atRest (closed_trees false) grown_grove hleft
  exact ⟨.ofIndex 9, .ofIndex 10, info, closed_trees false, grown_grove, hleft, hinfo, hmentioned,
    hpublished _ info hinfo _ hmentioned, (hknown (.list (.described "Tree")) _ rfl).1⟩

/-- A list of trees that trees ask for themselves leaves them with a handle of no type. So does an
array type whose element is not published. -/
theorem list_of_trees_dangles :
    (∃ tree children info, (trees true).Closed ∧ AtRest (trees true) (grove true) ∧
      (grove true).issued ≤ UInt64.size ∧ (grove true).get tree = some info ∧
      children ∈ info.handles ∧ (grove true).get children = none ∧
      (request (trees true) (.list (.described "Tree")) (grove true)).1 ≠ children) ∧
    ∃ array info, (initial.arrayOf .unregistered).2.get array = some info ∧
      .unregistered ∈ info.handles ∧ (initial.arrayOf .unregistered).2.get .unregistered = none :=
  ⟨⟨.ofIndex 9, .ofIndex 8, _, closed_trees true, .request _ .initial, by decide, rfl, by decide,
      rfl, by decide⟩,
    .ofIndex 8, _, rfl, by decide, rfl⟩

end Registry

end Introspect

import Introspect.Proofs.Conversion.Boxed
import Introspect.Proofs.Decimal.Printing
import Mathlib.Data.List.TakeWhile

/-!
# `Introspect.Proofs.Conversion.Lossless`: conversions there and back

A value that is converted to another type and back is the same value again where the other type can
hold all values: `convert_lossless` lists the cases. Texts are among them, because a number is read
as it was written.

An enumeration has its names in between. A value with a member becomes the name of the first such
member, and the way back looks for the first constant of that name; any other value becomes a number
in decimal. `roundTrips_string_iff` says when that leads back: the two searches must meet, which
they do when no name stands for two values. Nothing keeps an enumeration from declaring a name
twice, and then a value can be lost (`second_grade_lost`).
-/

set_option autoImplicit false

namespace Introspect

/-! ### Names of members -/

namespace TypeInfo

/-- The names of an enumeration's constants are looked up as they are, since nothing is cut off at a
comma, a point or a blank, and none of them is a number. -/
def HasPlainNames (info : TypeInfo) : Prop :=
  ∀ field ∈ info.fields, field.isConstant = true →
    ',' ∉ field.name.toList ∧ '.' ∉ field.name.toList ∧
      Text.trimList field.name.toList = field.name.toList ∧
      Decimal.int64? field.name.toList = none

/-- No name stands for two values. -/
def HasClearNames (info : TypeInfo) : Prop :=
  ∀ field ∈ info.fields, ∀ other ∈ info.fields, field.isConstant = true → other.isConstant = true →
    field.name = other.name → field.constant? = other.constant?

/-- The first constant of a name. -/
def constantNamed (info : TypeInfo) (name : String) : Option FieldInfo :=
  info.fields.find? fun field => field.isConstant && field.name == name

end TypeInfo

/-- A field with a content is a constant. -/
theorem FieldInfo.isConstant_of_constant? {field : FieldInfo} {content : Value}
    (h : field.constant? = some content) : field.isConstant = true := by
  unfold constant? at h
  unfold isConstant
  cases haccess : field.access with
  | constant value => rfl
  | _ => simp [haccess] at h

namespace Registry

variable {reg : Registry} {type : TypeHandle} {info : TypeInfo} {n : Int64} {name : String}

/-- The name of a value is that of a member that stands for it. -/
theorem exists_of_enumName (hinfo : reg.get type = some info)
    (h : reg.enumName type n = some name) :
    ∃ field ∈ info.fields, field.name = name ∧ field.constant? = some (.enum type n) := by
  simp only [enumName, hinfo, Option.bind_eq_bind, Option.bind_some, Option.pure_def] at h
  obtain ⟨field, hfield, hname⟩ := Option.bind_eq_some_iff.mp h
  refine ⟨field, List.mem_of_find?_eq_some hfield, Option.some.inj hname, ?_⟩
  have hfits := List.find?_some hfield
  split at hfits
  · next t v hcontent =>
      rw [Bool.and_eq_true, beq_iff_eq, beq_iff_eq] at hfits
      obtain ⟨rfl, rfl⟩ := hfits
      exact hcontent
  · cases hfits

/-- A name without a comma, a point and blanks around it is looked up as it is. -/
theorem bareName_eq_self (hcomma : ',' ∉ name.toList) (hpoint : '.' ∉ name.toList)
    (htrim : Text.trimList name.toList = name.toList) : bareName name = name := by
  have hwhole : name.toList.takeWhile (· != ',') = name.toList := by
    refine List.takeWhile_eq_self_iff.mpr fun c hc => ?_
    rw [bne_iff_ne]
    exact fun heq => hcomma (heq ▸ hc)
  have hlast : name.toList.reverse.takeWhile (· != '.') = name.toList.reverse := by
    refine List.takeWhile_eq_self_iff.mpr fun c hc => ?_
    rw [bne_iff_ne]
    exact fun heq => hpoint (heq ▸ List.mem_reverse.mp hc)
  unfold bareName
  dsimp only
  rw [hwhole, htrim, hlast, List.reverse_reverse, htrim, String.ofList_toList]

/-- A text that is looked up as it is leads to the first constant of that name, or is a number. -/
theorem enumOfText_eq (hinfo : reg.get type = some info) (hbare : bareName name = name) :
    reg.enumOfText name type = match info.constantNamed name with
      | some field => field.constant?
      | none => (Decimal.int64? name.toList).map (.enum type) := by
  simp only [enumOfText, hinfo, hbare, Option.bind_eq_bind, Option.bind_some]
  rfl

/-- A number in decimal is no plain name, so it stands for itself. -/
theorem enumOfText_ofInt (hinfo : reg.get type = some info) (hplain : info.HasPlainNames)
    (n : Int64) : reg.enumOfText (Decimal.ofInt n.toInt) type = some (.enum type n) := by
  have hbare : bareName (Decimal.ofInt n.toInt) = Decimal.ofInt n.toInt :=
    bareName_eq_self (fun hc => (Decimal.ne_of_mem_ofInt hc).2.1 rfl)
      (fun hc => (Decimal.ne_of_mem_ofInt hc).2.2 rfl) (Decimal.trimList_ofInt _)
  have hnone : info.constantNamed (Decimal.ofInt n.toInt) = none := by
    refine List.find?_eq_none.mpr fun field hfield hnamed => ?_
    rw [Bool.and_eq_true, beq_iff_eq] at hnamed
    have hnumber := (hplain field hfield hnamed.1).2.2.2
    rw [hnamed.2, Decimal.int64?_ofInt] at hnumber
    cases hnumber
  rw [enumOfText_eq hinfo hbare, hnone]
  dsimp only
  rw [Decimal.int64?_ofInt, Option.map_some]

/-- The name of a value leads to the first constant of that name. -/
theorem exists_enumOfText_enumName (hinfo : reg.get type = some info) (hplain : info.HasPlainNames)
    (hname : reg.enumName type n = some name) :
    ∃ field, info.constantNamed name = some field ∧ reg.enumOfText name type = field.constant? := by
  obtain ⟨member, hmember, rfl, hcontent⟩ := exists_of_enumName hinfo hname
  have hconstant := FieldInfo.isConstant_of_constant? hcontent
  obtain ⟨hcomma, hpoint, htrim, -⟩ := hplain member hmember hconstant
  cases hfound : info.constantNamed member.name with
  | none => exact absurd (List.find?_eq_none.mp hfound member hmember) (by simp [hconstant])
  | some field =>
      refine ⟨field, rfl, ?_⟩
      rw [enumOfText_eq hinfo (bareName_eq_self hcomma hpoint htrim), hfound]

/-- The name of a value, if it has one, leads back to the value. -/
def NameLeadsBack (reg : Registry) (info : TypeInfo) (type : TypeHandle) (n : Int64) : Prop :=
  ∀ name, reg.enumName type n = some name →
    ∃ field, info.constantNamed name = some field ∧ field.constant? = some (.enum type n)

/-- It does so if no name stands for two values. -/
theorem nameLeadsBack_of_clear (hinfo : reg.get type = some info) (hclear : info.HasClearNames)
    (n : Int64) : reg.NameLeadsBack info type n := by
  intro name hname
  obtain ⟨member, hmember, rfl, hcontent⟩ := exists_of_enumName hinfo hname
  have hconstant := FieldInfo.isConstant_of_constant? hcontent
  cases hfound : info.constantNamed member.name with
  | none => exact absurd (List.find?_eq_none.mp hfound member hmember) (by simp [hconstant])
  | some field =>
      have hnamed := List.find?_some hfound
      rw [Bool.and_eq_true, beq_iff_eq] at hnamed
      have hsame : field.constant? = member.constant? :=
        hclear field (List.mem_of_find?_eq_some hfound) member hmember hnamed.1 hconstant hnamed.2
      exact ⟨field, rfl, hsame.trans hcontent⟩

/-- The text of a value leads back to it exactly when its name does. -/
theorem enumOfText_textOfValue (hinfo : reg.get type = some info) (hplain : info.HasPlainNames)
    (n : Int64) : reg.enumOfText ((reg.enumName type n).getD (Decimal.ofInt n.toInt)) type =
      some (.enum type n) ↔ reg.NameLeadsBack info type n := by
  unfold NameLeadsBack
  cases hname : reg.enumName type n with
  | none => simp [enumOfText_ofInt hinfo hplain n]
  | some name =>
      obtain ⟨field, hfound, htext⟩ := exists_enumOfText_enumName hinfo hplain hname
      simp [htext, hfound]

end Registry

/-! ### Numbers in texts -/

/-- A number in decimal is read at the types of whole numbers as it is. -/
theorem valueOfText_ofInt (n : Int) :
    valueOfText (Decimal.ofInt n) .int32 = (Decimal.int32? (Decimal.ofInt n).toList).map .int32 ∧
      valueOfText (Decimal.ofInt n) .int64 =
        (Decimal.int64? (Decimal.ofInt n).toList).map .int64 := by
  unfold valueOfText
  rw [Decimal.trimList_ofInt]
  split
  · next hnil => exact absurd hnil (Decimal.ofInt_ne_nil n)
  · exact ⟨rfl, rfl⟩

namespace World

variable {w : World} {type : TypeHandle} {info : TypeInfo}

/-- A value is converted to a type, and what comes out is converted back into the value. -/
def RoundTrips (w : World) (v : Value) (via home : TypeHandle) : Prop :=
  (w.convert v via).bind (w.convert · home) = some v

/-! ### There and back -/

/-- A number or truth value survives another type of these when both ways lead through the same
two values. -/
theorem roundTrips_number {v : Value} {home via : TypeHandle} {number other : Number}
    (hgrounded : w.registry.Grounded) (there : Value) (hhome : home ∈ Registry.boxed)
    (hvia : via ∈ Registry.boxed) (hhomeText : home ≠ .string) (hviaText : via ≠ .string)
    (hne : via ≠ home) (htype : directType v = some home) (hthereType : directType there = some via)
    (hnumber : Number.ofValue v = some number) (hother : Number.ofValue there = some other)
    (hthere : number.toType via = some there) (hback : other.toType home = some v) :
    w.RoundTrips v via home := by
  rw [RoundTrips, convert_number hgrounded htype hnumber hhome hvia hviaText hne, hthere,
    Option.bind_some, convert_number hgrounded hthereType hother hvia hhome hhomeText hne.symm,
    hback]

/-- A number or truth value survives texts when its own text is read as it. -/
theorem roundTrips_text {v : Value} {home : TypeHandle} {text : String}
    (hgrounded : w.registry.Grounded) (hhome : home ∈ Registry.boxed) (hhomeText : home ≠ .string)
    (htype : directType v = some home) (htext : w.registry.textOfValue v = some text)
    (hread : valueOfText text home = some v) : w.RoundTrips v .string home := by
  have hassign : w.registry.isAssignable .string home = false :=
    hgrounded.isAssignable_eq_false hhome hhomeText.symm (by decide)
  rw [RoundTrips, convert_string hgrounded htype hassign, htext, Option.map_some, Option.bind_some,
    convert_text hgrounded hhome hhomeText, hread]

/-- A number of 32 bits survives more bits, and decimal. -/
theorem roundTrips_int32 (hgrounded : w.registry.Grounded) (n : Int32) :
    w.RoundTrips (.int32 n) .int64 .int32 ∧ w.RoundTrips (.int32 n) .string .int32 := by
  constructor
  · have hnarrow : (Number.whole n.toInt64).toInt32 = some n :=
      Number.toInt32_eq_some_iff.mpr rfl
    have hback : (Number.whole n.toInt64).toType .int32 = some (.int32 n) :=
      congrArg (Option.map Value.int32) hnarrow
    exact roundTrips_number hgrounded (.int64 n.toInt64) (by decide) (by decide) (by decide)
      (by decide) (by decide) rfl rfl rfl rfl rfl hback
  · refine roundTrips_text hgrounded (by decide) (by decide) rfl rfl ?_
    rw [(valueOfText_ofInt _).1, Decimal.int32?_ofInt, Option.map_some]

/-- A number of 64 bits survives decimal. -/
theorem roundTrips_int64 (hgrounded : w.registry.Grounded) (n : Int64) :
    w.RoundTrips (.int64 n) .string .int64 := by
  refine roundTrips_text hgrounded (by decide) (by decide) rfl rfl ?_
  rw [(valueOfText_ofInt _).2, Decimal.int64?_ofInt, Option.map_some]

/-- It reaches 32 bits exactly when it is one of 32 bits. -/
theorem convert_int64_int32_iff (hgrounded : w.registry.Grounded) {n : Int64} {r : Value} :
    w.convert (.int64 n) .int32 = some r ↔ ∃ m : Int32, m.toInt = n.toInt ∧ r = .int32 m := by
  have hnarrow : w.convert (.int64 n) .int32 = (Number.whole n).toInt32.map .int32 :=
    convert_number hgrounded rfl rfl (by decide) (by decide) (by decide) (by decide)
  have hsame : ∀ m : Int32, (Number.whole n).toInt32 = some m ↔ m.toInt = n.toInt := by
    intro m
    rw [Number.toInt32_eq_some_iff, ← Int32.toInt_toInt64, Int64.toInt_inj]
    exact Option.some_inj.trans eq_comm
  simp only [hnarrow, Option.map_eq_some_iff, hsame, eq_comm (a := r)]

/-- A truth value survives its word, and both kinds of whole numbers. -/
theorem roundTrips_bool (hgrounded : w.registry.Grounded) (b : Bool) :
    w.RoundTrips (.bool b) .string .bool ∧ w.RoundTrips (.bool b) .int32 .bool ∧
      w.RoundTrips (.bool b) .int64 .bool := by
  refine ⟨?_, ?_, ?_⟩
  · refine roundTrips_text hgrounded (by decide) (by decide) rfl rfl ?_
    cases b <;> rfl
  · exact roundTrips_number hgrounded (.int32 (if b then 1 else 0)) (by decide) (by decide)
      (by decide) (by decide) (by decide) rfl rfl rfl rfl (by cases b <;> rfl) (by cases b <;> rfl)
  · exact roundTrips_number hgrounded (.int64 (if b then 1 else 0)) (by decide) (by decide)
      (by decide) (by decide) (by decide) rfl rfl rfl rfl (by cases b <;> rfl) (by cases b <;> rfl)

/-- The value of an enumeration survives whole numbers. -/
theorem roundTrips_enum_int64 (hgrounded : w.registry.Grounded)
    (hinfo : w.registry.get type = some info) (hkind : info.kind = .enum) (n : Int64) :
    w.RoundTrips (.enum type n) .int64 type := by
  have hself : w.convert (.enum type n) type = some (.enum type n) :=
    convert_of_isAssignable rfl (w.registry.isAssignable_refl type)
  cases hassign : w.registry.isAssignable .int64 type with
  | true => rw [RoundTrips, convert_of_isAssignable rfl hassign, Option.bind_some, hself]
  | false =>
      have hthere : w.convert (.enum type n) .int64 = some (.int64 n) := by
        rw [convert_of_not_isAssignable rfl hassign,
          hgrounded.convertTo_number (by decide) (by decide) rfl]
        rfl
      have hback : w.convert (.int64 n) type = some (.enum type n) := by
        obtain ⟨hobject, hboxed⟩ := hgrounded.ne_of_enum hinfo hkind
        have hother : type ≠ .int64 := fun heq => hboxed (heq ▸ by decide)
        rw [convert_boxed hgrounded rfl (by decide) hother hobject,
          Registry.convertTo_enum hinfo hkind]
        rfl
      rw [RoundTrips, hthere, Option.bind_some, hback]

/-- With plain names, the value of an enumeration survives texts exactly when its name leads back to
it, or when no text is made of it because it can be stored as one. -/
theorem roundTrips_string_iff (hgrounded : w.registry.Grounded)
    (hinfo : w.registry.get type = some info) (hkind : info.kind = .enum)
    (hplain : info.HasPlainNames) (n : Int64) :
    w.RoundTrips (.enum type n) .string type ↔
      w.registry.isAssignable .string type = true ∨ w.registry.NameLeadsBack info type n := by
  cases hassign : w.registry.isAssignable .string type with
  | true =>
      have hself : w.convert (.enum type n) type = some (.enum type n) :=
        convert_of_isAssignable rfl (w.registry.isAssignable_refl type)
      rw [RoundTrips, convert_of_isAssignable rfl hassign, Option.bind_some, hself]
      simp
  | false =>
      obtain ⟨hobject, hboxed⟩ := hgrounded.ne_of_enum hinfo hkind
      have hother : type ≠ .string := fun heq => hboxed (heq ▸ by decide)
      have hback : ∀ text, w.convert (.string text) type = w.registry.enumOfText text type := by
        intro text
        rw [convert_boxed hgrounded rfl (by decide) hother hobject,
          Registry.convertTo_enum hinfo hkind]
        rfl
      rw [RoundTrips, convert_string hgrounded rfl hassign, Registry.textOfValue, Option.map_some,
        Option.bind_some, hback, Registry.enumOfText_textOfValue hinfo hplain]
      simp

/-- Conversions lose nothing where they need not. In every registry that keeps its built-in types:

* a number of 32 bits is the same after a conversion to 64 bits and back, and to a text and back;
* a number of 64 bits is the same after a conversion to a text and back, and becomes one of 32 bits
  exactly when it is equal to one;
* a truth value is the same after a conversion to a text or a whole number and back;
* a value of an enumeration, with a member or without, is the same after a conversion to 64 bits
  and back. If the names of the constants are plain, it is the same after a conversion to a text and
  back exactly when the first constant with the name of its first member stands for it, or when the
  enumeration derives from the texts; and it always is when no name stands for two values. -/
theorem convert_lossless {w : World} (hgrounded : w.registry.Grounded) :
    (∀ n : Int32, w.RoundTrips (.int32 n) .int64 .int32 ∧ w.RoundTrips (.int32 n) .string .int32) ∧
    (∀ n : Int64, w.RoundTrips (.int64 n) .string .int64 ∧ ∀ r,
      w.convert (.int64 n) .int32 = some r ↔ ∃ m : Int32, m.toInt = n.toInt ∧ r = .int32 m) ∧
    (∀ b, w.RoundTrips (.bool b) .string .bool ∧ w.RoundTrips (.bool b) .int32 .bool ∧
      w.RoundTrips (.bool b) .int64 .bool) ∧
    ∀ type info, w.registry.get type = some info → info.kind = .enum → ∀ n : Int64,
      w.RoundTrips (.enum type n) .int64 type ∧
      (info.HasPlainNames →
        (w.RoundTrips (.enum type n) .string type ↔
          w.registry.isAssignable .string type = true ∨ w.registry.NameLeadsBack info type n) ∧
        (info.HasClearNames → w.RoundTrips (.enum type n) .string type)) := by
  refine ⟨roundTrips_int32 hgrounded, fun n => ⟨roundTrips_int64 hgrounded n, fun r =>
    convert_int64_int32_iff hgrounded⟩, roundTrips_bool hgrounded, ?_⟩
  intro type info hinfo hkind n
  refine ⟨roundTrips_enum_int64 hgrounded hinfo hkind n, fun hplain => ?_⟩
  have hiff := roundTrips_string_iff hgrounded hinfo hkind hplain n
  exact ⟨hiff, fun hclear => hiff.mpr (.inr (Registry.nameLeadsBack_of_clear hinfo hclear n))⟩

/-- Two of these sizes have the same number. -/
def size : TypeHandle × Registry :=
  Registry.initial.declare (.enum "Size" [1, 2])
    ((((Blueprint.enumeration "Size").variant "Small" 1).variant "Tiny" 1).variant "Large" 2)

/-- The number that two members share survives texts, and so does one without a member. -/
theorem convert_lossless_size : (ofRegistry size.2).registry.Grounded ∧
    ∃ info, size.2.get size.1 = some info ∧ info.kind = .enum ∧ info.HasPlainNames ∧
      info.HasClearNames ∧ (ofRegistry size.2).RoundTrips (.enum size.1 1) .string size.1 ∧
      (ofRegistry size.2).RoundTrips (.enum size.1 (-7)) .string size.1 := by
  have hreached : Registry.Reached size.2 :=
    Registry.Reached.declare Relation.ReflTransGen.refl rfl _
  have hgrounded : (ofRegistry size.2).registry.Grounded := hreached.grounded (by decide)
  obtain ⟨info, hinfo, hfields, hkind⟩ : ∃ info, size.2.get size.1 = some info ∧
      info.fields = [.constant "Small" size.1 (.enum size.1 1),
        .constant "Tiny" size.1 (.enum size.1 1), .constant "Large" size.1 (.enum size.1 2)] ∧
      info.kind = .enum := ⟨_, rfl, rfl, rfl⟩
  have hplain : info.HasPlainNames := by
    intro field hfield _
    rw [hfields] at hfield
    simp only [List.mem_cons, List.not_mem_nil, or_false] at hfield
    rcases hfield with rfl | rfl | rfl <;> decide
  have hclear : info.HasClearNames := by
    intro field hfield other hother _ _ hname
    rw [hfields] at hfield hother
    simp only [List.mem_cons, List.not_mem_nil, or_false] at hfield hother
    rcases hfield with rfl | rfl | rfl <;> rcases hother with rfl | rfl | rfl <;>
      first
      | rfl
      | exact absurd hname (by decide)
  obtain ⟨-, -, -, henum⟩ := convert_lossless hgrounded
  exact ⟨hgrounded, info, hinfo, hkind, hplain, hclear,
    ((henum _ _ hinfo hkind 1).2 hplain).2 hclear, ((henum _ _ hinfo hkind (-7)).2 hplain).2 hclear⟩

/-- Two of these grades have the same name. -/
def grade : TypeHandle × Registry :=
  Registry.initial.declare (.enum "Grade" [1, 2])
    (((Blueprint.enumeration "Grade").variant "A" 1).variant "A" 2)

/-- On the way through its name, the second grade becomes the first one, although the name is
plain. -/
theorem second_grade_lost : (ofRegistry grade.2).registry.Grounded ∧
    ∃ info, grade.2.get grade.1 = some info ∧ info.kind = .enum ∧ info.HasPlainNames ∧
      (ofRegistry grade.2).convert (.enum grade.1 2) .string = some (.string "A") ∧
      (ofRegistry grade.2).convert (.string "A") grade.1 = some (.enum grade.1 1) ∧
      ¬ (ofRegistry grade.2).RoundTrips (.enum grade.1 2) .string grade.1 := by
  have hreached : Registry.Reached grade.2 :=
    Registry.Reached.declare Relation.ReflTransGen.refl rfl _
  obtain ⟨info, hinfo, hfields, hkind⟩ : ∃ info, grade.2.get grade.1 = some info ∧
      info.fields = [.constant "A" grade.1 (.enum grade.1 1),
        .constant "A" grade.1 (.enum grade.1 2)] ∧ info.kind = .enum := ⟨_, rfl, rfl, rfl⟩
  have hplain : info.HasPlainNames := by
    intro field hfield _
    rw [hfields] at hfield
    rcases List.mem_pair.mp hfield with rfl | rfl <;> decide
  have hthere : (ofRegistry grade.2).convert (.enum grade.1 2) .string = some (.string "A") :=
    rfl
  have hback : (ofRegistry grade.2).convert (.string "A") grade.1 = some (.enum grade.1 1) :=
    rfl
  refine ⟨hreached.grounded (by decide), info, hinfo, hkind, hplain, hthere, hback, fun hlost => ?_⟩
  rw [RoundTrips, hthere, Option.bind_some, hback] at hlost
  -- The two grades are different members.
  simp at hlost

end World

end Introspect

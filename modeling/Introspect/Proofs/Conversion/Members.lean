import Introspect.Proofs.Conversion.Lossless
import Introspect.Proofs.Decimal.Literals
import Mathlib.Data.List.DropRight

/-!
# `Introspect.Proofs.Conversion.Members`: texts that become values of an enumeration

A text names a member of an enumeration, with the name of the enumeration in front or without it, or
is the number of a value. What comes after the first comma is left out, and so are blanks at the
ends: the rest is the first part of the text (`firstPart`). In front of the last point of that part
stands what qualifies a name, and behind it the name (`lastSegment`).

A number is read behind the point as well, so a text can become a value that it does not mean:
`1.5` becomes the value 5. `means_of_convert_iff` says at which texts this happens. The first part
has a point, and behind the last one is the number of some value, but no name of a member.
`convert_text_to_enum` says next to it what becomes of every text, and of fractions among them.
-/

set_option autoImplicit false

namespace Introspect

/-- Trimming twice is trimming once. -/
theorem Text.trimList_trimList (cs : List Char) : trimList (trimList cs) = trimList cs := by
  have hsame : trimList cs = (cs.dropWhile isBlank).rdropWhile isBlank := rfl
  -- The front stays as it is, because what is left starts with a character that is no blank.
  have hfront : (trimList cs).dropWhile isBlank = trimList cs := by
    rw [List.dropWhile_eq_self_iff]
    intro hlen hblank
    have hprefix : trimList cs <+: cs.dropWhile isBlank := hsame ▸ List.rdropWhile_prefix _ _
    have hhead := List.dropWhile_get_zero_not isBlank cs (hlen.trans_le hprefix.length_le)
    rw [List.IsPrefix.getElem hprefix hlen] at hblank
    exact hhead hblank
  calc trimList (trimList cs) = ((trimList cs).dropWhile isBlank).rdropWhile isBlank := rfl
    _ = trimList cs := by rw [hfront, hsame, List.rdropWhile_idempotent]

namespace Registry

/-- A text up to its first comma, without blanks at the ends. -/
def firstPart (text : String) : String :=
  Text.trim (String.ofList (text.toList.takeWhile (· != ',')))

/-- What comes after the last point of the first part, without blanks at the ends. -/
def lastSegment (text : String) : String :=
  Text.trim (String.ofList ((firstPart text).toList.rtakeWhile (· != '.')))

/-- The last segment is the name that is looked up. -/
theorem bareName_eq_lastSegment (text : String) : bareName text = lastSegment text := by
  simp only [bareName, lastSegment, firstPart, Text.trim, List.rtakeWhile, String.toList_ofList]

/-- Without a point, the first part is its own last segment. -/
theorem lastSegment_eq_firstPart {text : String} (hpoint : '.' ∉ (firstPart text).toList) :
    lastSegment text = firstPart text := by
  have hwhole : (firstPart text).toList.rtakeWhile (· != '.') = (firstPart text).toList := by
    refine List.rtakeWhile_eq_self_iff.mpr fun c hc => ?_
    rw [bne_iff_ne]
    exact fun heq => hpoint (heq ▸ hc)
  rw [lastSegment, hwhole, String.ofList_toList, firstPart, Text.trim, Text.trim,
    String.toList_ofList, Text.trimList_trimList]

end Registry

open Registry (firstPart lastSegment)

namespace TypeInfo

variable {info : TypeInfo} {name : String} {content : Value}

/-- A member of the name has the content. -/
def HasMember (info : TypeInfo) (name : String) (content : Value) : Prop :=
  ∃ field ∈ info.fields, field.name = name ∧ field.constant? = some content

/-- The names of members begin with no digit, as is so for all identifiers. -/
def HasIdentifiers (info : TypeInfo) : Prop :=
  ∀ field ∈ info.fields, field.isConstant = true →
    ∀ c ∈ field.name.toList.head?, Decimal.isDigit c = false

/-- A text means a value of the enumeration `type`: its last segment is the name of a member that
has the value, or its first part is the number of the value. -/
def Means (info : TypeInfo) (type : TypeHandle) (text : String) (r : Value) : Prop :=
  info.HasMember (lastSegment text) r ∨
    ∃ n : Int64, Decimal.Denotes (firstPart text).toList n.toInt ∧ r = .enum type n

/-- A constant that is found by its name is a member of that name. -/
theorem hasMember_of_constantNamed {field : FieldInfo}
    (hfound : info.constantNamed name = some field) (hcontent : field.constant? = some content) :
    info.HasMember name content := by
  have hnamed := List.find?_some hfound
  rw [Bool.and_eq_true, beq_iff_eq] at hnamed
  exact ⟨field, List.mem_of_find?_eq_some hfound, hnamed.2, hcontent⟩

/-- A member is found by its name, or another one of that name is. -/
theorem HasMember.constantNamed_ne_none (h : info.HasMember name content) :
    info.constantNamed name ≠ none := by
  obtain ⟨field, hfield, rfl, hcontent⟩ := h
  intro hnone
  refine List.find?_eq_none.mp hnone field hfield ?_
  simp [FieldInfo.isConstant_of_constant? hcontent]

/-- No member goes by a number. -/
theorem HasIdentifiers.constantNamed_eq_none {k : Nat} (h : info.HasIdentifiers)
    (hname : Decimal.Numeral name.toList k) : info.constantNamed name = none := by
  refine List.find?_eq_none.mpr fun field hfield hnamed => ?_
  rw [Bool.and_eq_true, beq_iff_eq] at hnamed
  obtain ⟨hconstant, rfl⟩ := hnamed
  obtain ⟨hne, hdigits⟩ := hname.digits
  obtain ⟨c, rest, hcs⟩ := List.exists_cons_of_ne_nil hne
  have hdigit := h field hfield hconstant c (by rw [hcs]; rfl)
  rw [hdigits c (hcs ▸ List.mem_cons_self)] at hdigit
  cases hdigit

end TypeInfo

namespace World

variable {w : World} {type : TypeHandle} {info : TypeInfo} {text : String} {r : Value}

/-- A text becomes the content of the first member that its last segment names. If there is none, it
becomes the value whose number the last segment is. -/
theorem convert_text_enum_iff (hgrounded : w.registry.Grounded)
    (hinfo : w.registry.get type = some info) (hkind : info.kind = .enum) :
    w.convert (.string text) type = some r ↔
      (∃ field, info.constantNamed (lastSegment text) = some field ∧ field.constant? = some r) ∨
      info.constantNamed (lastSegment text) = none ∧
        ∃ n : Int64, Decimal.Denotes (lastSegment text).toList n.toInt ∧ r = .enum type n := by
  obtain ⟨hobject, hboxed⟩ := hgrounded.ne_of_enum hinfo hkind
  have hother : type ≠ .string := fun heq => hboxed (heq ▸ by decide)
  have hconvert : w.convert (.string text) type = w.registry.enumOfText text type := by
    rw [convert_boxed hgrounded rfl (by decide) hother hobject,
      Registry.convertTo_enum hinfo hkind]
    rfl
  have hlookup : w.registry.enumOfText text type =
      (info.constantNamed (lastSegment text)).elim
        ((Decimal.int64? (lastSegment text).toList).map (.enum type)) (·.constant?) := by
    rw [← Registry.bareName_eq_lastSegment]
    simp only [Registry.enumOfText, hinfo, Option.bind_eq_bind, Option.bind_some,
      TypeInfo.constantNamed]
    split
    · next field hfound => rw [hfound, Option.elim_some]
    · next hnone => rw [hnone, Option.elim_none]
  rw [hconvert, hlookup]
  cases info.constantNamed (lastSegment text) with
  | some field => simp
  | none => simp [Option.map_eq_some_iff, Decimal.int64?_eq_some_iff, eq_comm (a := r)]

/-- What a text becomes is what it means, unless its first part has a point and the number of some
value behind the last one, which is no name of a member. -/
theorem means_of_convert_iff (hgrounded : w.registry.Grounded)
    (hinfo : w.registry.get type = some info) (hkind : info.kind = .enum) :
    (∀ r, w.convert (.string text) type = some r → info.Means type text r) ↔
      '.' ∉ (firstPart text).toList ∨ info.constantNamed (lastSegment text) ≠ none ∨
        ∀ n : Int64, ¬ Decimal.Denotes (lastSegment text).toList n.toInt := by
  simp only [convert_text_enum_iff hgrounded hinfo hkind]
  constructor
  · intro h
    by_contra hnot
    simp only [not_or, not_not, not_forall] at hnot
    obtain ⟨hpoint, hnone, n, hdenotes⟩ := hnot
    -- Behind the point the number is read, although the part as a whole is no number.
    rcases h (.enum type n) (.inr ⟨hnone, n, hdenotes, rfl⟩) with hmember | ⟨other, hother, -⟩
    · exact hmember.constantNamed_ne_none hnone
    · exact hother.point_not_mem hpoint
  · rintro hcases r (⟨field, hfound, hcontent⟩ | ⟨hnone, n, hdenotes, rfl⟩)
    · exact .inl (TypeInfo.hasMember_of_constantNamed hfound hcontent)
    · rcases hcases with hpoint | hnamed | hnumber
      · rw [Registry.lastSegment_eq_firstPart hpoint] at hdenotes
        exact .inr ⟨n, hdenotes, rfl⟩
      · exact absurd hnone hnamed
      · exact absurd hdenotes (hnumber n)

/-- The last segment of a fraction are the digits behind its point. -/
theorem lastSegment_fraction {whole part : List Char}
    (hwhole : ∀ c ∈ whole, Decimal.isDigit c = true)
    (hpart : ∀ c ∈ part, Decimal.isDigit c = true) :
    lastSegment (String.ofList (whole ++ '.' :: part)) = String.ofList part := by
  have hplain : ∀ c ∈ whole ++ '.' :: part, Text.isBlank c = false ∧ c ≠ ',' := by
    intro c hc
    rcases List.mem_append.mp hc with hc | hc
    · exact (Decimal.ne_of_isDigit (hwhole c hc)).imp_right And.left
    · rcases List.mem_cons.mp hc with rfl | hc
      · decide
      · exact (Decimal.ne_of_isDigit (hpart c hc)).imp_right And.left
  have hfirst : firstPart (String.ofList (whole ++ '.' :: part)) =
      String.ofList (whole ++ '.' :: part) := by
    have hcomma : (whole ++ '.' :: part).takeWhile (· != ',') = whole ++ '.' :: part :=
      List.takeWhile_eq_self_iff.mpr fun c hc => bne_iff_ne.mpr (hplain c hc).2
    rw [firstPart, String.toList_ofList, hcomma, Text.trim, String.toList_ofList,
      Text.trimList_of_no_blank fun c hc => (hplain c hc).1]
  have hlast : (whole ++ '.' :: part).rtakeWhile (· != '.') = part := by
    have hpoint : ∀ c ∈ part.reverse, (c != '.') = true := fun c hc =>
      bne_iff_ne.mpr (Decimal.ne_of_isDigit (hpart c (List.mem_reverse.mp hc))).2.2
    rw [List.rtakeWhile, List.reverse_append, List.reverse_cons, List.append_assoc,
      List.takeWhile_append_of_pos hpoint]
    simp
  rw [lastSegment, hfirst, String.toList_ofList, hlast, Text.trim, String.toList_ofList,
    Text.trimList_of_no_blank fun c hc => (Decimal.ne_of_isDigit (hpart c hc)).1]

/-- What becomes of a text at an enumeration, in every registry that keeps its built-in types and
for every text.

* It becomes the content of the first member that its last segment names, or, if there is none, the
  value whose number the last segment is.
* That is nothing but what the text means, a member by its name or a value by its number, exactly
  when the first part has no point, or the last segment names a member, or it is the number of no
  value.
* So a fraction, which means nothing where names are identifiers, becomes the value whose number
  stands behind the point. -/
theorem convert_text_to_enum (hgrounded : w.registry.Grounded)
    (hinfo : w.registry.get type = some info) (hkind : info.kind = .enum) :
    (∀ text r, w.convert (.string text) type = some r ↔
      (∃ field, info.constantNamed (lastSegment text) = some field ∧ field.constant? = some r) ∨
      info.constantNamed (lastSegment text) = none ∧
        ∃ n : Int64, Decimal.Denotes (lastSegment text).toList n.toInt ∧ r = .enum type n) ∧
    (∀ text, (∀ r, w.convert (.string text) type = some r → info.Means type text r) ↔
      '.' ∉ (firstPart text).toList ∨ info.constantNamed (lastSegment text) ≠ none ∨
        ∀ n : Int64, ¬ Decimal.Denotes (lastSegment text).toList n.toInt) ∧
    (info.HasIdentifiers → ∀ whole part m k, Decimal.Numeral whole m → Decimal.Numeral part k →
      ∀ r, w.convert (.string (String.ofList (whole ++ '.' :: part))) type = some r ↔
        ∃ n : Int64, n.toInt = k ∧ r = .enum type n) := by
  refine ⟨fun text r => convert_text_enum_iff hgrounded hinfo hkind,
    fun text => means_of_convert_iff hgrounded hinfo hkind, ?_⟩
  intro hnames whole part m k hwhole hpart r
  have hsegment := lastSegment_fraction hwhole.digits.2 hpart.digits.2
  have hnone : info.constantNamed (String.ofList part) = none :=
    hnames.constantNamed_eq_none (by rwa [String.toList_ofList])
  have hvalue : ∀ n : Int64, Decimal.Denotes part n.toInt ↔ n.toInt = k := by
    intro n
    have hdenotes : Decimal.Denotes part k := .bare hpart
    exact ⟨fun h => h.unique hdenotes, fun h => h ▸ hdenotes⟩
  rw [convert_text_enum_iff hgrounded hinfo hkind, hsegment, hnone, String.toList_ofList]
  simp [hvalue]

/-- The sizes are an enumeration with identifiers for names. -/
theorem size_enumeration : (ofRegistry size.2).registry.Grounded ∧
    ∃ info, (ofRegistry size.2).registry.get size.1 = some info ∧ info.kind = .enum ∧
      info.fields = [.constant "Small" size.1 (.enum size.1 1),
        .constant "Tiny" size.1 (.enum size.1 1), .constant "Large" size.1 (.enum size.1 2)] ∧
      info.HasIdentifiers := by
  have hreached : Registry.Reached size.2 :=
    Registry.Reached.declare Relation.ReflTransGen.refl rfl _
  obtain ⟨info, hinfo, hkind, hfields⟩ : ∃ info, size.2.get size.1 = some info ∧
      info.kind = .enum ∧ info.fields = [.constant "Small" size.1 (.enum size.1 1),
        .constant "Tiny" size.1 (.enum size.1 1), .constant "Large" size.1 (.enum size.1 2)] :=
    ⟨_, rfl, rfl, rfl⟩
  refine ⟨hreached.grounded (by decide), info, hinfo, hkind, hfields, ?_⟩
  intro field hfield _
  rw [hfields] at hfield
  simp only [List.mem_cons, List.not_mem_nil, or_false] at hfield
  rcases hfield with rfl | rfl | rfl
  · exact fun c (hc : some 'S' = some c) => Option.some.inj hc ▸ rfl
  · exact fun c (hc : some 'T' = some c) => Option.some.inj hc ▸ rfl
  · exact fun c (hc : some 'L' = some c) => Option.some.inj hc ▸ rfl

/-- A size is meant by its name with what qualifies it, and by its number. -/
theorem convert_text_to_enum_size : ∃ info, (ofRegistry size.2).registry.Grounded ∧
    (ofRegistry size.2).registry.get size.1 = some info ∧ info.kind = .enum ∧
    (ofRegistry size.2).convert (.string " Size.Large , and more") size.1 =
      some (.enum size.1 2) ∧
    info.Means size.1 " Size.Large , and more" (.enum size.1 2) ∧
    info.HasIdentifiers ∧ (ofRegistry size.2).convert (.string "1.5") size.1 =
      some (.enum size.1 5) := by
  obtain ⟨hgrounded, info, hinfo, hkind, hfields, hnames⟩ := size_enumeration
  obtain ⟨hread, hmeant, hfraction⟩ := convert_text_to_enum hgrounded hinfo hkind
  have hsegment : lastSegment " Size.Large , and more" = "Large" := by decide
  have hfound : info.constantNamed "Large" =
      some (.constant "Large" size.1 (.enum size.1 2)) := by
    rw [TypeInfo.constantNamed, hfields]
    rfl
  have hlarge : (ofRegistry size.2).convert (.string " Size.Large , and more") size.1 =
      some (.enum size.1 2) :=
    (hread _ _).mpr (.inl ⟨_, by rw [hsegment, hfound], rfl⟩)
  have hnamed : info.constantNamed (lastSegment " Size.Large , and more") ≠ none := by
    rw [hsegment, hfound]
    exact Option.some_ne_none _
  have hone : Decimal.Numeral ['1'] 1 := .digit rfl
  have hfive : Decimal.Numeral ['5'] 5 := .digit rfl
  exact ⟨info, hgrounded, hinfo, hkind, hlarge, (hmeant _).mpr (.inr (.inl hnamed)) _ hlarge,
    hnames, (hfraction hnames ['1'] ['5'] 1 5 hone hfive _).mpr ⟨5, rfl, rfl⟩⟩

/-- The fraction `1.5` is no number of a value and names no member, and it becomes the value 5 all
the same, which no member has. -/
theorem convert_fraction_to_size : ∃ info,
    (ofRegistry size.2).registry.get size.1 = some info ∧ info.kind = .enum ∧
    info.HasIdentifiers ∧
    (ofRegistry size.2).convert (.string "1.5") size.1 = some (.enum size.1 5) ∧
    (∀ name, ¬ info.HasMember name (.enum size.1 5)) ∧
    ¬ info.Means size.1 "1.5" (.enum size.1 5) := by
  obtain ⟨hgrounded, info, hinfo, hkind, hfields, hnames⟩ := size_enumeration
  have hmember : ∀ name, ¬ info.HasMember name (.enum size.1 5) := by
    rintro name ⟨field, hfield, -, hcontent⟩
    rw [hfields] at hfield
    simp only [List.mem_cons, List.not_mem_nil, or_false] at hfield
    rcases hfield with rfl | rfl | rfl <;>
      exact absurd (Value.enum.inj (Option.some.inj hcontent)).2 (by decide)
  refine ⟨info, hinfo, hkind, hnames, ?_, hmember, ?_⟩
  · refine (convert_text_enum_iff hgrounded hinfo hkind).mpr (.inr ⟨?_, 5, .bare (.digit rfl), rfl⟩)
    exact hnames.constantNamed_eq_none (.digit rfl)
  · rintro (hnamed | ⟨n, hdenotes, -⟩)
    · exact hmember _ hnamed
    · exact hdenotes.point_not_mem (by decide)

end World

end Introspect

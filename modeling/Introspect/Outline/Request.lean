import Introspect.Outline.Descriptor
import Introspect.Workspace

/-!
# `Introspect.Outline.Request`: outlines of requests and of what they find

Signatures of requests, resolved members and prepared accessors. An accessor shows the signature
that it was made from, and a mapper also the members that it pairs.
-/

set_option autoImplicit false

namespace Introspect

instance : Outlined Flags := ⟨fun p flags => outline p flags.render⟩

instance : Outlined Direction where
  outline p
    | .read => outline p "read"
    | .write => outline p "write"

instance : Outlined DataKinds where
  outline p kinds :=
    outline p ((if kinds.fields then ["field"] else []) ++
      (if kinds.properties then ["property"] else []))

instance : Described MemberHandle where
  parts p
    | .field type index => [p.part "field" (type, index)]
    | .property type index accessor =>
      [p.part "property" (type, index), p.part "accessor" accessor]
    | .method ref => [p.part "method" ref]
    | .constructor type index => [p.part "constructor" (type, index)]
    | .zero type => [p.part "zero" type]
    | .allocation element => [p.part "alloc" element]
    | .element element => [p.part "element" element]

instance : Described Signature where
  parts p sig := [
    p.part "kind" sig.kind, p.part "target" sig.target, p.part "direction" sig.direction,
    p.part "name" sig.name, p.part "flags" sig.flags, p.part "params" sig.params,
    p.part "generics" sig.typeArgs, p.part "static" sig.isStatic,
    p.part "resolved" (sig.resolution.map (·.member)),
    p.part "resolved_params" sig.resolvedParams]

instance : Described MapSignature where
  parts p sig := [
    p.part "source" sig.source, p.part "target" sig.target,
    p.part "source_kinds" sig.sourceKinds, p.part "target_kinds" sig.targetKinds,
    p.part "names" sig.names, p.part "flags" sig.flags,
    p.part "ignores_case" sig.ignoresCase]

instance : Described DataMember where
  parts p member := [
    p.part "name" member.name, p.part "type" member.type, p.part "kind" member.kind,
    p.part "read" member.read, p.part "write" member.write]

/-- The words for a form of accessors. -/
def Accessor.form : Accessor → String
  | .getter _ => "getter"
  | .setter _ => "setter"
  | .method _ => "method"
  | .constructor _ => "constructor"
  | .elementGetter _ => "element getter"
  | .elementSetter _ => "element setter"

instance : Described Accessor where
  parts p accessor := [p.part "acc" accessor.form, p.part "sig" accessor.signature]

instance : Outlined MappedMember := ⟨fun p pair => outline p (pair.source, pair.target)⟩

instance : Described ObjectMapper where
  parts p mapper := [
    p.part "acc" "mapper", p.part "sig" mapper.signature, p.part "len" mapper.steps.length,
    p.part "empty" mapper.steps.isEmpty, p.part "members" mapper.members]

instance : Described AnyAccessor where
  parts p
    | .member accessor => Described.parts p accessor
    | .mapper mapper => Described.parts p mapper

instance : Described CacheStats where
  parts p stats := [
    p.part "hits" stats.hits, p.part "misses" stats.misses,
    p.part "compilations" stats.compilations, p.part "rejected" stats.rejected,
    p.part "reclaimed" stats.reclaimed]

end Introspect

import Introspect.Cache
import Introspect.Outline.Failure

/-!
# `Introspect.Sample.Pantry`: a cache at work

A recipe makes a number or a text for a key. While it is made, further recipes may ask for products
of the same cache, even for the one that is being made, and in the end it may fail. A pantry has
several caches of such products, and keeps some products held under names.

`Recipe.request` is total: a recipe asks only for recipes that are part of it.
-/

set_option autoImplicit false

namespace Introspect.Sample

/-- What recipes make. -/
inductive Product
  | number (n : Int)
  | text (s : String)
  deriving Inhabited

/-- Numbers among the products. -/
def numberFacet : Facet Product Int :=
  ⟨.number, (match · with | .number n => some n | _ => none), fun _ => rfl⟩

/-- Texts among the products. -/
def textFacet : Facet Product String :=
  ⟨.text, (match · with | .text s => some s | _ => none), fun _ => rfl⟩

/-- How a product is made. -/
inductive Recipe
  /-- `missing` is the type whose absence makes the recipe fail in the end -/
  | mk (key : String) (value : Int) (isText : Bool) (missing : Option String)
      (nested : List Recipe)

/-- What happens while a product is made. -/
inductive KitchenEvent
  /-- a recipe starts to make what belongs to a key -/
  | started (key : String)
  /-- a nested request has been answered -/
  | nested (result : Except ReflectError Product)

/-- A cache of products, and what has happened since a request began. -/
structure Kitchen where
  cache : Cache String Product
  log : List KitchenEvent

/-- Actions in a kitchen. A failure keeps the state it arose in. -/
abbrev KitchenM (α : Type) : Type := ExceptT ReflectError (StateM Kitchen) α

namespace Kitchen

/-- Changes the cache. -/
def update {γ : Type} (change : Cache String Product → γ × Cache String Product) : KitchenM γ :=
  modifyGet fun k => ((change k.cache).1, { k with cache := (change k.cache).2 })

/-- Adds an event. -/
def note (event : KitchenEvent) : KitchenM Unit :=
  modify fun k => { k with log := k.log ++ [event] }

/-- Notes the answer to a nested request, and ends the hold on its product. -/
def settle (request : KitchenM (Artifact Product)) : KitchenM Unit := do
  match ← (ExceptT.mk (Except.ok <$> request.run) : KitchenM (Except ReflectError _)) with
  | .ok artifact =>
    note (.nested (.ok artifact.content))
    update fun cache => ((), cache.release artifact.id)
  | .error e => note (.nested (.error e))

/-- Requests a product that is made in one form. -/
def requestAs {β : Type} (facet : Facet Product β) (key : String) (prepare : String → KitchenM Unit)
    (made : β) : KitchenM (Artifact Product) := do
  let artifact ← Cache.request update facet key fun key => do
    prepare key
    return made
  return ⟨artifact.id, facet.wrap artifact.content⟩

end Kitchen

/-- Requests the product of a recipe, whose hold is the caller's. -/
def Recipe.request : Recipe → KitchenM (Artifact Product)
  | .mk key value isText missing nested =>
    let prepare (key : String) : KitchenM Unit := do
      -- The key is a copy: the mark on it does not reach the cache.
      Kitchen.note (.started (key ++ "!"))
      nested.attach.forM fun ⟨recipe, _⟩ => Kitchen.settle recipe.request
      if let some type := missing then throw (.unknownType type)
    if isText then Kitchen.requestAs textFacet key prepare ("text " ++ Decimal.ofInt value)
    else Kitchen.requestAs numberFacet key prepare value
termination_by recipe => recipe
decreasing_by
  have := List.sizeOf_lt_of_mem ‹_ ∈ nested›
  simp only [Recipe.mk.sizeOf_spec]
  omega

/-! ### Several caches -/

/-- A cache with a number that tells it from others of its name. -/
structure Shelf where
  number : Nat
  cache : Cache String Product

/-- Named caches, and the products that are held under names. -/
structure Pantry where
  /-- how many caches there have been -/
  issued : Nat
  shelves : List (String × Shelf)
  /-- a name for the number of a cache and of one of its artifacts -/
  held : List (String × Nat × Nat)

namespace Pantry

/-- A pantry without caches. -/
def empty : Pantry := ⟨0, [], []⟩

/-- The cache with a name. -/
def shelf? (p : Pantry) (name : String) : Option Shelf := p.shelves.lookup name

/-- Replaces the cache with a number. -/
def withCache (p : Pantry) (number : Nat) (change : Cache String Product → Cache String Product) :
    Pantry :=
  { p with
    shelves := p.shelves.map fun (name, s) =>
      (name, if s.number = number then { s with cache := change s.cache } else s) }

/-- Sets up a cache, in the place of an earlier one of the name. -/
def add (p : Pantry) (name : String) (cache : Cache String Product) : Pantry :=
  { p with
    issued := p.issued + 1
    shelves := (name, ⟨p.issued, cache⟩) :: p.shelves.filter (·.1 != name) }

/-- Takes the name from a product, and ends the hold on it. -/
def dropProduct (p : Pantry) (name : String) : Pantry :=
  let p := match p.held.lookup name with
    | some (number, artifact) => p.withCache number (·.release artifact)
    | none => p
  { p with held := p.held.filter (·.1 != name) }

/-- Takes a name from whatever has it. -/
def drop (p : Pantry) (name : String) : Pantry :=
  let p := p.dropProduct name
  { p with shelves := p.shelves.filter (·.1 != name) }

/-- Whether a name is in use. -/
def uses (p : Pantry) (name : String) : Bool :=
  (p.shelf? name).isSome || (p.held.lookup name).isSome

/-- Requests the product of a recipe from a cache. It is held under a name, if one is given. -/
def request (p : Pantry) (shelf : Shelf) (recipe : Recipe) (holder : Option String) :
    Except ReflectError (Product × List KitchenEvent) × Pantry :=
  let (result, kitchen) := recipe.request.run.run ⟨shelf.cache, []⟩
  let p := p.withCache shelf.number fun _ => kitchen.cache
  match result, holder with
  | .error e, _ => (.error e, p)
  | .ok artifact, none =>
    (.ok (artifact.content, kitchen.log), p.withCache shelf.number (·.release artifact.id))
  | .ok artifact, some name =>
    -- An earlier product of the name loses its hold only now.
    let p := p.dropProduct name
    (.ok (artifact.content, kitchen.log),
      { p with held := (name, shelf.number, artifact.id) :: p.held })

end Pantry

/-! ### Outlines -/

instance : Outlined Product where
  outline p
    | .number n => outline p n
    | .text s => outline p s

instance : Outlined KitchenEvent where
  outline p
    | .started key => outline p ("compile", key)
    | .nested (.ok product) => outline p ("nested", product)
    | .nested (.error e) => outline p ("nested", e)

end Introspect.Sample

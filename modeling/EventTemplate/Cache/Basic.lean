import EventTemplate.Cache.Recent
import EventTemplate.Cache.Record
import EventTemplate.Limit
import EventTemplate.Template.Parse

/-
  The cache of parsed templates: a raw template is parsed when it is asked for and not in the
  cache. Failures are not kept, so what cannot be parsed is tried again every time.
-/

namespace EventTemplate

/-- A template as one parse made it. Two parses of one raw template make two instances, which
differ in their serial numbers alone. -/
structure Instance where
  serial : Nat
  template : Template
  deriving DecidableEq, Repr

structure Cache where
  store : Recent Instance
  deriving Repr

/-- Why there is no store of a given size. -/
inductive SizeError where
  /-- A cache cannot hold fewer than no templates. -/
  | negativeCache (size : Int)
  | negativeStore
  /-- The size does not fit a machine word. -/
  | tooLarge
  deriving DecidableEq, Repr

namespace SizeError

/-- The error in words; a size that cannot be written is told of instead. -/
def message : SizeError → String
  | negativeCache size => match Decimal.printInt size with
    | .ok size => "Cache size must be non-negative, got " ++ size
    | .error why => why.message
  | negativeStore => "Size should be a positive number"
  | tooLarge => tooLargeMessage

end SizeError

namespace Cache

/-- A cache for `size` templates, or without a bound if `size` is zero. -/
def create (size : Int) : Except SizeError Cache :=
  if size < 0 then .error (.negativeCache size)
  else if (greatestSize : Int) < size then .error .tooLarge
  else .ok ⟨{ capacity := size.toNat }⟩

def unbounded : Cache :=
  ⟨{ capacity := 0 }⟩

def size (c : Cache) : Nat :=
  c.store.size

/-- Whether the template of a raw template is in the cache; asking does not count as use. -/
def contains (c : Cache) (raw : String) : Bool :=
  c.store.contains raw

def clear (c : Cache) : Cache :=
  ⟨c.store.clear⟩

/-- What a question to the cache brings: the answer, the cache after it and the log of it. -/
structure Fetched where
  answer : Except ParseError Instance
  cache : Cache
  records : List Record

/-- Puts an instance into the cache under its raw template. -/
def keep (c : Cache) (raw : String) (i : Instance) : Cache × List Record :=
  let (store, gone) := c.store.insert raw i
  (⟨store⟩, gone.toList.map .evicted ++ [.cached raw])

/-- What is noted of a parse that failed: only a rejection is. -/
def refusal (raw : String) : ParseError → List Record
  | .rejected _ => [.refused raw]
  | .decimal _ => []

/-- The instance for a raw template: the one in the cache, or a new one under the given serial
number. -/
def fetch (c : Cache) (serial : Nat) (raw : String) : Fetched :=
  match c.store.get? raw with
  | some i => ⟨.ok i, ⟨c.store.touch raw⟩, []⟩
  | none => match Template.parse raw with
    | .ok t =>
      let kept := c.keep raw ⟨serial, t⟩
      ⟨.ok ⟨serial, t⟩, kept.1, kept.2⟩
    | .error why => ⟨.error why, c, refusal raw why⟩

def written (c : Cache) : String :=
  "TemplateCache(size=" ++ toString c.store.capacity ++ ", cached=" ++ toString c.size ++ ")"

end Cache

end EventTemplate

import ToStringGen.Declaration

/-!
# Discovery of declarations

A source of declarations hands out, pass by pass, the declarations that carry a
marker and are new since the pass before. The usual source is a pool that knows
all its declarations and hands out each name once.
-/

namespace ToStringGen

/-- A source of annotated declarations, with states of type `S`. -/
class Discovery (S : Type) where
  /-- The declarations with a marker that are new since the previous call. -/
  find : S → String → List TypeDeclaration × S
  /-- Whether the next call could find something. A source that cannot tell says that it
  could. -/
  hasPending : S → String → Bool := fun _ _ => true

/-- A pool of declarations. -/
structure Pool where
  /-- All declarations, in the order in which they were added. -/
  declarations : List TypeDeclaration := []
  /-- The names handed out since the last reset, the latest first. -/
  delivered : List String := []
  deriving DecidableEq, Repr, Inhabited

namespace Pool

/-- A pool from which nothing has been handed out. -/
def ofList (declarations : List TypeDeclaration) : Pool :=
  { declarations }

/-- Adds a declaration for a later pass. -/
def push (pool : Pool) (declaration : TypeDeclaration) : Pool :=
  { pool with declarations := pool.declarations ++ [declaration] }

/-- Forgets what was handed out. -/
def reset (pool : Pool) : Pool :=
  { pool with delivered := [] }

/-- The annotated declarations of a list whose names are not yet handed out, each name once,
and the names handed out afterwards. -/
def select (marker : String) :
    List TypeDeclaration → List String → List TypeDeclaration × List String
  | [], delivered => ([], delivered)
  | declaration :: rest, delivered =>
      if declaration.isAnnotatedWith marker && !delivered.contains declaration.qualifiedName then
        let (found, delivered) := select marker rest (declaration.qualifiedName :: delivered)
        (declaration :: found, delivered)
      else select marker rest delivered

/-- Hands out what is new for a marker. -/
def find (pool : Pool) (marker : String) : List TypeDeclaration × Pool :=
  let (found, delivered) := select marker pool.declarations pool.delivered
  (found, { pool with delivered })

/-- Whether something is new for a marker. -/
def hasPending (pool : Pool) (marker : String) : Bool :=
  pool.declarations.any fun declaration =>
    declaration.isAnnotatedWith marker && !pool.delivered.contains declaration.qualifiedName

instance : Discovery Pool where
  find := find
  hasPending := hasPending

end Pool

end ToStringGen

import TicketSync.Json.Printer

/-!
Functions that a template can call. A function takes a list of JSON values and gives one or a
fault. `Functions.standard` holds `env`, `keys`, `values`, `seq` and the helpers of conditions;
`env` reads the environment that the registry is built with.
-/
namespace TicketSync.Template

/-- Why a function gives no value. -/
inductive FunctionFault where
  | arity (function : String) (expected got : Nat)
  | tooFew (function : String) (least : Nat)
  | notText (function : String)
  | notMap (function kind : String)
  | notList (function kind : String)
  | notSearchable (function kind : String)
  | other (message : String)
  deriving DecidableEq, Repr

/-- The message of a fault. -/
def FunctionFault.message : FunctionFault → String
  | .arity f n m => f ++ ": expected " ++ toString n ++ " argument(s), got " ++ toString m
  | .tooFew f n => f ++ ": expected at least " ++ toString n ++ " arguments"
  | .notText f => f ++ ": expected a string argument"
  | .notMap f k => f ++ ": expected a map, got " ++ k
  | .notList f k => f ++ ": expected a list, got " ++ k
  | .notSearchable f k => f ++ ": cannot search in " ++ k
  | .other m => m

/-- A function that templates can call. -/
abbrev Function := List Json → Except FunctionFault Json

/-- The text of a value inside rendered output. -/
def render : Json → String
  | .null => ""
  | .str s => s
  | v => v.toText

/-- Whether a value counts as true: not null, false, zero or empty. -/
def truthy : Json → Bool
  | .null => false
  | .bool b => b
  | .int i => i ≠ 0
  | .real x => !x.isZero
  | .str s => !s.isEmpty
  | .arr items => !items.isEmpty
  | .obj fields => !fields.isEmpty

/-- Equality of values that also lets a string equal the number it spells. -/
def looselyEqual : Json → Json → Bool
  | .str s, .int i => s == (Json.int i).toText
  | .str s, .real x => s == (Json.real x).toText
  | .int i, .str s => s == (Json.int i).toText
  | .real x, .str s => s == (Json.real x).toText
  | a, b => a.same b

/-- Whether a list of characters occurs in another one. -/
def occursIn (needle : List Char) : List Char → Bool
  | [] => needle.isEmpty
  | c :: rest => needle.isPrefixOf (c :: rest) || occursIn needle rest

/-- Functions by their names. -/
structure Functions where
  table : Dict Function

namespace Functions

/-- The registry without functions. -/
def empty : Functions := ⟨Dict.empty⟩

/-- The registry with a function under a name, in place of what was there. -/
def add (fs : Functions) (name : String) (f : Function) : Functions :=
  ⟨fs.table.insert name f⟩

/-- The function of a name. -/
def get? (fs : Functions) (name : String) : Option Function := fs.table.get? name

/-- Whether a name has a function. -/
def contains (fs : Functions) (name : String) : Bool := fs.table.contains name

/-- The names in ascending order. -/
def names (fs : Functions) : List String := fs.table.keys

/-- The form of a registry in messages. -/
def describe (fs : Functions) : String :=
  "Functions \x7b names: [" ++ ", ".intercalate (fs.names.map Text.quote) ++ "] \x7d"

/-- A variable of the environment, empty when it is not set. -/
def env (environment : Dict String) : Function
  | [.str name] => .ok (.str ((environment.get? name).getD ""))
  | [_] => .error (.notText "env")
  | args => .error (.arity "env" 1 args.length)

/-- The keys of a map, in order. -/
def keys : Function
  | [.obj fields] => .ok (.ofStrings (fields.map (·.1)))
  | [.null] => .ok (.arr [])
  | [v] => .error (.notMap "keys" v.kind)
  | args => .error (.arity "keys" 1 args.length)

/-- The values of a map, in the order of the keys. -/
def values : Function
  | [.obj fields] => .ok (.arr (fields.map (·.2)))
  | [.null] => .ok (.arr [])
  | [v] => .error (.notMap "values" v.kind)
  | args => .error (.arity "values" 1 args.length)

/-- The items of a list in one text, separated by commas. -/
def seq : Function
  | [.arr items] => .ok (.str (",".intercalate (items.map render)))
  | [.null] => .ok (.str "")
  | [v] => .error (.notList "seq" v.kind)
  | args => .error (.arity "seq" 1 args.length)

/-- Whether the first argument equals one of the others. -/
def eq : Function
  | a :: b :: rest => .ok (.bool ((b :: rest).any (looselyEqual a)))
  | _ => .error (.tooFew "eq" 2)

/-- Whether two values differ. -/
def ne : Function
  | [a, b] => .ok (.bool (!looselyEqual a b))
  | args => .error (.arity "ne" 2 args.length)

/-- Whether a value does not count as true. -/
def not : Function
  | [a] => .ok (.bool (!truthy a))
  | args => .error (.arity "not" 1 args.length)

/-- Whether all arguments count as true. -/
def and : Function := fun args => .ok (.bool (args.all truthy))

/-- Whether some argument counts as true. -/
def or : Function := fun args => .ok (.bool (args.any truthy))

/-- Whether a text, a list or the keys of a map hold a value. -/
def searches : Function
  | [.str hay, needle] => .ok (.bool (occursIn (render needle).toList hay.toList))
  | [.arr items, needle] => .ok (.bool (items.any fun v => looselyEqual v needle))
  | [.obj fields, needle] => .ok (.bool ((Dict.find (render needle) fields).isSome))
  | [.null, _] => .ok (.bool false)
  | [v, _] => .error (.notSearchable "contains" v.kind)
  | args => .error (.arity "contains" 2 args.length)

/-- The second argument when it counts as true, else the first one. -/
def default : Function
  | [a, b] => .ok (if truthy b then b else a)
  | args => .error (.arity "default" 2 args.length)

/-- The standard functions over an environment. -/
def standard (environment : Dict String) : Functions :=
  ⟨.ofList
    [("env", env environment), ("keys", keys), ("values", values), ("seq", seq), ("eq", eq),
     ("ne", ne), ("not", not), ("and", and), ("or", or), ("contains", searches),
     ("default", default)]⟩

end Functions
end TicketSync.Template

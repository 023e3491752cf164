import Embedding.Native.Element

namespace Embedding.Guest

inductive ErrorKind
  | error
  | eval
  | range
  | reference
  | syntaxError
  | type
  | uri
  | internal
  | aggregate
deriving DecidableEq, Inhabited

def ErrorKind.name : ErrorKind → String
  | error => "Error"
  | eval => "EvalError"
  | range => "RangeError"
  | reference => "ReferenceError"
  | syntaxError => "SyntaxError"
  | type => "TypeError"
  | uri => "URIError"
  | internal => "InternalError"
  | aggregate => "AggregateError"

def ErrorKind.all : List ErrorKind :=
  [error, eval, range, reference, syntaxError, type, uri, internal, aggregate]

/-- The element types of guest typed arrays: the host's and the clamped bytes. -/
inductive ArrayElement
  | plain (t : ElementType)
  | clamped
deriving DecidableEq, Inhabited

namespace ArrayElement

def all : List ArrayElement := .clamped :: ElementType.all.map .plain

def name : ArrayElement → String
  | plain t => t.name
  | clamped => "Uint8ClampedArray"

def width : ArrayElement → Nat
  | plain t => t.width
  | clamped => 1

end ArrayElement

inductive GlobalFn
  | parseInt | parseFloat | isNaN | isFinite
  | decodeUri | decodeUriComponent | encodeUri | encodeUriComponent
  | escape | unescape | eval
deriving DecidableEq, Inhabited

inductive ObjectFn
  | construct | create | getPrototypeOf | setPrototypeOf | defineProperty | defineProperties
  | getOwnPropertyNames | getOwnPropertySymbols | groupBy | keys | values | entries
  | isExtensible | preventExtensions | getOwnPropertyDescriptor | getOwnPropertyDescriptors
  | is | assign | seal | freeze | isSealed | isFrozen | fromEntries | hasOwn
  | toString | toLocaleString | valueOf | hasOwnProperty | isPrototypeOf | propertyIsEnumerable
  | getProto | setProto | defineGetter | defineSetter | lookupGetter | lookupSetter
deriving DecidableEq, Inhabited

inductive FunctionFn
  | construct | constructGenerator | constructAsync | prototype | call | apply | bind | toString
  | hasInstance | throwTypeError
deriving DecidableEq, Inhabited

inductive ErrorFn
  | construct (kind : ErrorKind)
  | toString
deriving DecidableEq, Inhabited

inductive ArrayFn
  | construct | isArray | fromIterable | of
  | at | withItem | concat | every | some | forEach | map | filter | reduce | reduceRight
  | fill | find | findIndex | findLast | findLastIndex | indexOf | lastIndexOf | includes
  | join | toString | toLocaleString | pop | push | shift | unshift
  | reverse | toReversed | sort | toSorted | slice | splice | toSpliced | copyWithin
  | flatMap | flat | values | keys | entries
deriving DecidableEq, Inhabited

inductive IteratorFn
  | self | arrayNext | mapNext | setNext | textNext | matchNext
  | generatorNext | generatorReturn | generatorThrow
deriving DecidableEq, Inhabited

inductive StringFn
  | construct | fromCharCode | fromCodePoint | raw
  | at | charCodeAt | charAt | concat | codePointAt | isWellFormed | toWellFormed
  | indexOf | lastIndexOf | includes | endsWith | startsWith | matchWith | matchAll | search | split
  | substring | substr | slice | repeated | replace | replaceAll | padEnd | padStart
  | trim | trimEnd | trimStart | toString | valueOf | localeCompare
  | toLowerCase | toUpperCase | normalize | iterator
deriving DecidableEq, Inhabited

inductive NumberFn
  | construct | isNaN | isFinite | isInteger | isSafeInteger
  | toExponential | toFixed | toPrecision | toString | toLocaleString | valueOf
deriving DecidableEq, Inhabited

inductive PrimitiveFn
  | constructBoolean | booleanToString | booleanValueOf
  | constructSymbol | symbolFor | symbolKeyFor | symbolToString | symbolValueOf | symbolDescription
  | symbolToPrimitive
  | constructBigInt | asIntN | asUintN | bigintToString | bigintValueOf
deriving DecidableEq, Inhabited

inductive MathFn
  | min | max | abs | floor | ceil | round | sqrt | acos | asin | atan | atan2 | cos | exp | log | pow
  | sin | tan | trunc | sign | cosh | sinh | tanh | acosh | asinh | atanh | expm1 | log1p | log2 | log10
  | cbrt | hypot | random | fround | imul | clz32
deriving DecidableEq, Inhabited

inductive DateField
  | year | month | date | hours | minutes | seconds | milliseconds | day
deriving DecidableEq, Inhabited

inductive DateFn
  | construct | now | parse | utc
  | valueOf | toString | toPrimitive | toUtcString | toIsoString | toDateString | toTimeString
  | toLocaleString | toLocaleDateString | toLocaleTimeString | getTimezoneOffset | getTime | getYear
  | get (field : DateField) | set (field : DateField)
  | setTime | setYear | toJson
deriving DecidableEq, Inhabited

inductive RegExpFn
  | construct | exec | compile | test | toString
  | source | flags | flag (letter : Char)
  | matchWith | matchAll | replace | search | split
deriving DecidableEq, Inhabited

inductive CollectionFn
  | constructMap | constructSet | constructWeakMap | constructWeakSet | groupBy
  | mapSet | mapGet | mapHas | mapDelete | mapClear | mapSize | mapForEach | mapValues | mapKeys | mapEntries
  | setAdd | setHas | setDelete | setClear | setSize | setForEach | setValues | setEntries
  | weakMapSet | weakMapGet | weakMapHas | weakMapDelete | weakSetAdd | weakSetHas | weakSetDelete
deriving DecidableEq, Inhabited

inductive BufferFn
  | construct (shared : Bool) | isView | byteLength (shared : Bool) | slice (shared : Bool)
  | constructView | viewBuffer | viewByteLength | viewByteOffset
  | viewGet (t : ElementType) | viewSet (t : ElementType)
deriving DecidableEq, Inhabited

inductive TypedArrayFn
  | construct (t : ArrayElement) | constructAbstract | fromIterable | of
  | length | buffer | byteLength | byteOffset | toStringTag
  | at | withItem | set | subarray | values | keys | entries | copyWithin
  | every | some | forEach | map | filter | reduce | reduceRight | fill
  | find | findIndex | findLast | findLastIndex | reverse | toReversed | slice | sort | toSorted
  | join | indexOf | lastIndexOf | includes
deriving DecidableEq, Inhabited

inductive PromiseFn
  | construct | resolve | reject | thenDo | catchWith | finallyDo | all | allSettled | any | race
  | withResolvers
  | settle (promise : Nat) (fulfils : Bool)
deriving DecidableEq, Inhabited

inductive ProxyFn
  | construct | revocable
  | revoke (proxy : Nat)
deriving DecidableEq, Inhabited

inductive ReflectFn
  | apply | construct | defineProperty | deleteProperty | get | getOwnPropertyDescriptor | getPrototypeOf
  | has | isExtensible | ownKeys | preventExtensions | set | setPrototypeOf
deriving DecidableEq, Inhabited

inductive JsonFn
  | parse | stringify
deriving DecidableEq, Inhabited

inductive Builtin where
  | globals (f : GlobalFn)
  | object (f : ObjectFn)
  | function (f : FunctionFn)
  | error (f : ErrorFn)
  | array (f : ArrayFn)
  | iterator (f : IteratorFn)
  | string (f : StringFn)
  | number (f : NumberFn)
  | primitive (f : PrimitiveFn)
  | math (f : MathFn)
  | date (f : DateFn)
  | regexp (f : RegExpFn)
  | collection (f : CollectionFn)
  | buffer (f : BufferFn)
  | typedArray (f : TypedArrayFn)
  | promise (f : PromiseFn)
  | proxy (f : ProxyFn)
  | reflect (f : ReflectFn)
  | json (f : JsonFn)
  /-- The getter by which constructors name themselves as the ones to use for derived objects. -/
  | species
deriving DecidableEq, Inhabited

def Builtin.isConstructor : Builtin → Bool
  | object .construct | error (.construct _) | array .construct | string .construct | number .construct
  | function .construct | function .constructGenerator | function .constructAsync
  | primitive .constructBoolean | primitive .constructSymbol | primitive .constructBigInt | date .construct | regexp .construct
  | collection .constructMap | collection .constructSet | collection .constructWeakMap
  | collection .constructWeakSet | buffer (.construct _) | buffer .constructView
  | typedArray (.construct _) | typedArray .constructAbstract | promise .construct | proxy .construct => true
  | _ => false

def Builtin.requiresNew : Builtin → Bool
  | collection .constructMap | collection .constructSet | collection .constructWeakMap
  | collection .constructWeakSet | buffer (.construct _) | buffer .constructView | typedArray (.construct _)
  | promise .construct | proxy .construct => true
  | _ => false

end Embedding.Guest

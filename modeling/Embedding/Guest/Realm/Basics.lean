import Embedding.Guest.Realm.Site

namespace Embedding.Guest.Realm

open Intrinsic

def objectSites : List Site := [
  { place := objectPrototype
    proto := none
    members :=
      methods .object [("toString", .toString, 0), ("toLocaleString", .toLocaleString, 0), ("valueOf", .valueOf, 0),
        ("hasOwnProperty", .hasOwnProperty, 1), ("isPrototypeOf", .isPrototypeOf, 1),
        ("propertyIsEnumerable", .propertyIsEnumerable, 1)] ++
      [.accessor "__proto__" (.object .getProto) (some (.object .setProto))] ++
      methods .object [("__defineGetter__", .defineGetter, 2), ("__defineSetter__", .defineSetter, 2),
        ("__lookupGetter__", .lookupGetter, 1), ("__lookupSetter__", .lookupSetter, 1)] ++
      [Member.link "constructor" objectConstructor] },
  constructorSite objectConstructor "Object" (.object .construct) 1 (some objectPrototype)
    (methods .object [("create", .create, 2), ("getPrototypeOf", .getPrototypeOf, 1),
      ("setPrototypeOf", .setPrototypeOf, 2), ("defineProperty", .defineProperty, 3),
      ("defineProperties", .defineProperties, 2), ("getOwnPropertyNames", .getOwnPropertyNames, 1),
      ("getOwnPropertySymbols", .getOwnPropertySymbols, 1), ("groupBy", .groupBy, 2), ("keys", .keys, 1),
      ("values", .values, 1), ("entries", .entries, 1), ("isExtensible", .isExtensible, 1),
      ("preventExtensions", .preventExtensions, 1), ("getOwnPropertyDescriptor", .getOwnPropertyDescriptor, 2),
      ("getOwnPropertyDescriptors", .getOwnPropertyDescriptors, 1), ("is", .is, 2), ("assign", .assign, 2),
      ("seal", .seal, 1), ("freeze", .freeze, 1), ("isSealed", .isSealed, 1), ("isFrozen", .isFrozen, 1),
      ("fromEntries", .fromEntries, 1), ("hasOwn", .hasOwn, 2)])]

def functionSites : List Site := [
  { place := functionPrototype
    payload := .builtin (.function .prototype)
    members :=
      [.data "length" (.fixed (.ofNat 0)), .data "name" (.fixed (.ofString ""))] ++
      methods .function [("call", .call, 1), ("apply", .apply, 2), ("bind", .bind, 1), ("toString", .toString, 0)] ++
      [Member.symbolMethod Symbol.hasInstance (.function .hasInstance) 1,
       .data "caller" ⟨.accessor (.object throwTypeError) (.object throwTypeError), false, true⟩,
       .data "arguments" ⟨.accessor (.object throwTypeError) (.object throwTypeError), false, true⟩,
       .link "constructor" functionConstructor] },
  constructorSite functionConstructor "Function" (.function .construct) 1 (some functionPrototype) [],
  functionSite throwTypeError "" (.function .throwTypeError) 0,
  { place := generatorFunctionPrototype
    proto := some functionPrototype
    members := [.data "prototype" (.fixed (.object generatorPrototype)), .tag "GeneratorFunction",
      .data "constructor" (.fixed (.object generatorFunctionConstructor))] },
  { place := asyncFunctionPrototype
    proto := some functionPrototype
    members := [.tag "AsyncFunction", .data "constructor" (.fixed (.object asyncFunctionConstructor))] },
  { place := asyncGeneratorFunctionPrototype
    proto := some functionPrototype
    members := [.data "prototype" (.fixed (.object asyncGeneratorPrototype)), .tag "AsyncGeneratorFunction"] },
  constructorSite generatorFunctionConstructor "GeneratorFunction" (.function .constructGenerator) 1
    (some generatorFunctionPrototype) [] functionConstructor,
  constructorSite asyncFunctionConstructor "AsyncFunction" (.function .constructAsync) 1
    (some asyncFunctionPrototype) [] functionConstructor]

def errorSitesOf (kind : ErrorKind) : List Site :=
  let isBase := kind == .error
  [{ place := errorPrototype kind
     proto := some (if isBase then objectPrototype else errorPrototype .error)
     members :=
       [.data "name" (.method (.ofString kind.name)), .data "message" (.method (.ofString ""))] ++
       (if isBase then methods .error [("toString", .toString, 0)] else []) ++
       [Member.link "constructor" (errorConstructor kind)] },
   constructorSite (errorConstructor kind) kind.name (.error (.construct kind)) (if kind == .aggregate then 2 else 1)
     (some (errorPrototype kind)) [] (if isBase then functionPrototype else errorConstructor .error)]

def errorSites : List Site := ErrorKind.all.flatMap errorSitesOf

def primitiveSites : List Site := [
  { place := booleanPrototype
    payload := .primitive (.bool false)
    members := methods .primitive [("toString", .booleanToString, 0), ("valueOf", .booleanValueOf, 0)] ++
      [Member.link "constructor" booleanConstructor] },
  constructorSite booleanConstructor "Boolean" (.primitive .constructBoolean) 1 (some booleanPrototype) [],
  { place := symbolPrototype
    members := methods .primitive [("toString", .symbolToString, 0), ("valueOf", .symbolValueOf, 0)] ++
      [Member.symbolMethod Symbol.toPrimitive (.primitive .symbolToPrimitive) 1, .tag "Symbol",
       .getter "description" (.primitive .symbolDescription), .link "constructor" symbolConstructor] },
  constructorSite symbolConstructor "Symbol" (.primitive .constructSymbol) 0 (some symbolPrototype)
    (methods .primitive [("for", .symbolFor, 1), ("keyFor", .symbolKeyFor, 1)] ++
      Symbol.allWellKnown.map fun (name, s) => Member.constant name (.symbol s)),
  { place := bigintPrototype
    members := methods .primitive [("toString", .bigintToString, 0), ("valueOf", .bigintValueOf, 0)] ++
      [Member.tag "BigInt", .link "constructor" bigintConstructor] },
  constructorSite bigintConstructor "BigInt" (.primitive .constructBigInt) 1 (some bigintPrototype)
    (methods .primitive [("asIntN", .asIntN, 2), ("asUintN", .asUintN, 2)])]

def numberOf (digits : Nat) (scale : Int) : Value := .number (Double.ofDecimal false digits scale)

def numberSites : List Site := [
  functionSite parseInt "parseInt" (.globals .parseInt) 2,
  functionSite parseFloat "parseFloat" (.globals .parseFloat) 1,
  { place := numberPrototype
    payload := .primitive (.ofNat 0)
    members := methods .number [("toExponential", .toExponential, 1), ("toFixed", .toFixed, 1),
        ("toPrecision", .toPrecision, 1), ("toString", .toString, 1), ("toLocaleString", .toLocaleString, 0),
        ("valueOf", .valueOf, 0)] ++ [Member.link "constructor" numberConstructor] },
  constructorSite numberConstructor "Number" (.number .construct) 1 (some numberPrototype)
    ([Member.link "parseInt" parseInt, .link "parseFloat" parseFloat] ++
      methods .number [("isNaN", .isNaN, 1), ("isFinite", .isFinite, 1), ("isInteger", .isInteger, 1),
        ("isSafeInteger", .isSafeInteger, 1)] ++
      [Member.constant "MAX_VALUE" (.number ⟨0x7fefffffffffffff⟩), .constant "MIN_VALUE" (.number ⟨1⟩),
       .constant "NaN" (.number Double.nan), .constant "NEGATIVE_INFINITY" (.number Double.negativeInfinity),
       .constant "POSITIVE_INFINITY" (.number Double.infinity), .constant "EPSILON" (.number (Double.ofRatio false 1 (2 ^ 52))),
       .constant "MAX_SAFE_INTEGER" (.ofInt (2 ^ 53 - 1)), .constant "MIN_SAFE_INTEGER" (.ofInt (1 - 2 ^ 53))]),
  { place := math
    members := methods .math [("min", .min, 2), ("max", .max, 2), ("abs", .abs, 1), ("floor", .floor, 1),
        ("ceil", .ceil, 1), ("round", .round, 1), ("sqrt", .sqrt, 1), ("acos", .acos, 1), ("asin", .asin, 1),
        ("atan", .atan, 1), ("atan2", .atan2, 2), ("cos", .cos, 1), ("exp", .exp, 1), ("log", .log, 1),
        ("pow", .pow, 2), ("sin", .sin, 1), ("tan", .tan, 1), ("trunc", .trunc, 1), ("sign", .sign, 1),
        ("cosh", .cosh, 1), ("sinh", .sinh, 1), ("tanh", .tanh, 1), ("acosh", .acosh, 1), ("asinh", .asinh, 1),
        ("atanh", .atanh, 1), ("expm1", .expm1, 1), ("log1p", .log1p, 1), ("log2", .log2, 1), ("log10", .log10, 1),
        ("cbrt", .cbrt, 1), ("hypot", .hypot, 2), ("random", .random, 0), ("fround", .fround, 1), ("imul", .imul, 2),
        ("clz32", .clz32, 1)] ++
      [Member.tag "Math", .constant "E" (numberOf 2718281828459045 (-15)), .constant "LN10" (numberOf 2302585092994046 (-15)),
       .constant "LN2" (numberOf 6931471805599453 (-16)), .constant "LOG2E" (numberOf 14426950408889634 (-16)),
       .constant "LOG10E" (numberOf 4342944819032518 (-16)), .constant "PI" (numberOf 3141592653589793 (-15)),
       .constant "SQRT1_2" (numberOf 7071067811865476 (-16)), .constant "SQRT2" (numberOf 14142135623730951 (-16))] }]

def reflectSites : List Site := [
  constructorSite proxyConstructor "Proxy" (.proxy .construct) 2 none (methods .proxy [("revocable", .revocable, 2)]),
  { place := reflect
    members := methods .reflect [("apply", .apply, 3), ("construct", .construct, 2), ("defineProperty", .defineProperty, 3),
        ("deleteProperty", .deleteProperty, 2), ("get", .get, 2),
        ("getOwnPropertyDescriptor", .getOwnPropertyDescriptor, 2), ("getPrototypeOf", .getPrototypeOf, 1),
        ("has", .has, 2), ("isExtensible", .isExtensible, 1), ("ownKeys", .ownKeys, 1),
        ("preventExtensions", .preventExtensions, 1), ("set", .set, 3), ("setPrototypeOf", .setPrototypeOf, 2)] ++
      [Member.tag "Reflect"] },
  { place := json
    members := methods .json [("parse", .parse, 2), ("stringify", .stringify, 3)] ++ [Member.tag "JSON"] }]

end Embedding.Guest.Realm

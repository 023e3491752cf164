import Embedding.Guest.Realm.Basics
import Embedding.Guest.Realm.Containers

namespace Embedding.Guest.Realm

open Intrinsic

def globalConstructors : List (String × ObjectId) :=
  [("Object", objectConstructor), ("Function", functionConstructor)] ++
  (ErrorKind.all.map fun k => (k.name, errorConstructor k)) ++
  [("Array", arrayConstructor), ("Number", numberConstructor), ("Boolean", booleanConstructor),
   ("String", stringConstructor), ("Symbol", symbolConstructor), ("Date", dateConstructor),
   ("RegExp", regexpConstructor), ("Proxy", proxyConstructor), ("Map", mapConstructor), ("Set", setConstructor),
   ("WeakMap", weakMapConstructor), ("WeakSet", weakSetConstructor), ("ArrayBuffer", bufferConstructor),
   ("SharedArrayBuffer", sharedBufferConstructor)] ++
  (ArrayElement.all.map fun t => (t.name, elementConstructor t)) ++
  [("DataView", dataViewConstructor), ("Promise", promiseConstructor), ("BigInt", bigintConstructor)]

def globalSite : Site where
  place := globalObject
  members :=
    [.link "parseInt" parseInt, .link "parseFloat" parseFloat] ++
    methods .globals [("isNaN", .isNaN, 1), ("isFinite", .isFinite, 1), ("decodeURI", .decodeUri, 1),
      ("decodeURIComponent", .decodeUriComponent, 1), ("encodeURI", .encodeUri, 1),
      ("encodeURIComponent", .encodeUriComponent, 1), ("escape", .escape, 1), ("unescape", .unescape, 1)] ++
    [.constant "Infinity" (.number Double.infinity), .constant "NaN" (.number Double.nan),
     .constant "undefined" .undefined, .link "globalThis" globalObject] ++
    methods .globals [("eval", .eval, 1)] ++
    (globalConstructors.map fun (name, o) => .link name o) ++
    [.link "Math" math, .link "Reflect" reflect, .link "JSON" json]

def sites : List Site :=
  objectSites ++ functionSites ++ errorSites ++ primitiveSites ++ numberSites ++ reflectSites ++ arraySites ++
  iteratorSites ++ textSites ++ dateSites ++ collectionSites ++ bufferSites ++ ArrayElement.all.flatMap elementSites ++
  promiseSites ++ [globalSite]

def initial : Machine := layOut sites

end Embedding.Guest.Realm

import Embedding.Guest.Realm.Site

namespace Embedding.Guest.Realm

open Intrinsic

def unscopableNames : List String :=
  ["at", "copyWithin", "entries", "fill", "find", "findIndex", "findLast", "findLastIndex", "flat", "flatMap",
   "includes", "keys", "toReversed", "toSorted", "toSpliced", "values"]

def arraySites : List Site := [
  functionSite arrayValues "values" (.array .values) 0,
  { place := unscopables
    proto := none
    members := unscopableNames.map fun n => .data (.ofString n) (.plain (.bool true)) },
  { place := arrayPrototype
    payload := .array #[] 0 false
    members := methods .array [("at", .at, 1), ("with", .withItem, 2), ("concat", .concat, 1), ("every", .every, 1),
        ("some", .some, 1), ("forEach", .forEach, 1), ("map", .map, 1), ("filter", .filter, 1),
        ("reduce", .reduce, 1), ("reduceRight", .reduceRight, 1), ("fill", .fill, 1), ("find", .find, 1),
        ("findIndex", .findIndex, 1), ("findLast", .findLast, 1), ("findLastIndex", .findLastIndex, 1),
        ("indexOf", .indexOf, 1), ("lastIndexOf", .lastIndexOf, 1), ("includes", .includes, 1), ("join", .join, 1),
        ("toString", .toString, 0), ("toLocaleString", .toLocaleString, 0), ("pop", .pop, 0), ("push", .push, 1),
        ("shift", .shift, 0), ("unshift", .unshift, 1), ("reverse", .reverse, 0), ("toReversed", .toReversed, 0),
        ("sort", .sort, 1), ("toSorted", .toSorted, 1), ("slice", .slice, 2), ("splice", .splice, 2),
        ("toSpliced", .toSpliced, 2), ("copyWithin", .copyWithin, 2), ("flatMap", .flatMap, 1), ("flat", .flat, 0)] ++
      [Member.link "values" arrayValues, .data (.symbol Symbol.iterator) (.method (.object arrayValues))] ++
      methods .array [("keys", .keys, 0), ("entries", .entries, 0)] ++
      [.data (.symbol Symbol.unscopables) (.fixed (.object unscopables)), .link "constructor" arrayConstructor] },
  constructorSite arrayConstructor "Array" (.array .construct) 1 (some arrayPrototype)
    (methods .array [("isArray", .isArray, 1), ("from", .fromIterable, 1), ("of", .of, 0)] ++ [Member.species])]

def iteratorSite (place : ObjectId) (name : String) (next : IteratorFn) : Site where
  place := place
  proto := some iteratorPrototype
  members := methods .iterator [("next", next, 0)] ++ [Member.tag name]

def iteratorSites : List Site := [
  { place := iteratorPrototype, members := [.symbolMethod Symbol.iterator (.iterator .self) 0] },
  { place := asyncIteratorPrototype, members := [.symbolMethod Symbol.asyncIterator (.iterator .self) 0] },
  iteratorSite arrayIteratorPrototype "Array Iterator" .arrayNext,
  iteratorSite mapIteratorPrototype "Map Iterator" .mapNext,
  iteratorSite setIteratorPrototype "Set Iterator" .setNext,
  iteratorSite textIteratorPrototype "String Iterator" .textNext,
  iteratorSite matchIteratorPrototype "RegExp String Iterator" .matchNext,
  { place := generatorPrototype
    proto := some iteratorPrototype
    members := methods .iterator [("next", .generatorNext, 1), ("return", .generatorReturn, 1),
        ("throw", .generatorThrow, 1)] ++
      [Member.tag "Generator", .data "constructor" (.fixed (.object generatorFunctionPrototype))] },
  { place := asyncGeneratorPrototype
    proto := some asyncIteratorPrototype
    members := [.tag "AsyncGenerator", .data "constructor" (.fixed (.object asyncGeneratorFunctionPrototype))] }]

def textSites : List Site := [
  { place := stringPrototype
    payload := .primitive (.text Text.empty)
    members := methods .string [("at", .at, 1), ("charCodeAt", .charCodeAt, 1), ("charAt", .charAt, 1),
        ("concat", .concat, 1), ("codePointAt", .codePointAt, 1), ("isWellFormed", .isWellFormed, 0),
        ("toWellFormed", .toWellFormed, 0), ("indexOf", .indexOf, 1), ("lastIndexOf", .lastIndexOf, 1),
        ("includes", .includes, 1), ("endsWith", .endsWith, 1), ("startsWith", .startsWith, 1),
        ("match", .matchWith, 1), ("matchAll", .matchAll, 1), ("search", .search, 1), ("split", .split, 2),
        ("substring", .substring, 2), ("substr", .substr, 2), ("slice", .slice, 2), ("repeat", .repeated, 1),
        ("replace", .replace, 2), ("replaceAll", .replaceAll, 2), ("padEnd", .padEnd, 1), ("padStart", .padStart, 1),
        ("trim", .trim, 0), ("trimEnd", .trimEnd, 0)] ++
      [Member.synonym "trimRight" "trimEnd"] ++ methods .string [("trimStart", .trimStart, 0)] ++
      [Member.synonym "trimLeft" "trimStart"] ++
      methods .string [("toString", .toString, 0), ("valueOf", .valueOf, 0), ("localeCompare", .localeCompare, 1),
        ("toLowerCase", .toLowerCase, 0), ("toUpperCase", .toUpperCase, 0), ("toLocaleLowerCase", .toLowerCase, 0),
        ("toLocaleUpperCase", .toUpperCase, 0), ("normalize", .normalize, 0)] ++
      [Member.symbolMethod Symbol.iterator (.string .iterator) 0, .link "constructor" stringConstructor] },
  constructorSite stringConstructor "String" (.string .construct) 1 (some stringPrototype)
    (methods .string [("fromCharCode", .fromCharCode, 1), ("fromCodePoint", .fromCodePoint, 1), ("raw", .raw, 1)]),
  { place := regexpPrototype
    members := getters .regexp [("flags", .flags), ("source", .source), ("global", .flag 'g'),
        ("ignoreCase", .flag 'i'), ("multiline", .flag 'm'), ("dotAll", .flag 's'), ("unicode", .flag 'u'),
        ("sticky", .flag 'y'), ("hasIndices", .flag 'd')] ++
      methods .regexp [("exec", .exec, 1), ("compile", .compile, 2), ("test", .test, 1), ("toString", .toString, 0)] ++
      [Member.symbolMethod Symbol.replace (.regexp .replace) 2, .symbolMethod Symbol.matchSymbol (.regexp .matchWith) 1,
       .symbolMethod Symbol.matchAll (.regexp .matchAll) 1, .symbolMethod Symbol.search (.regexp .search) 1,
       .symbolMethod Symbol.split (.regexp .split) 2, .link "constructor" regexpConstructor] },
  constructorSite regexpConstructor "RegExp" (.regexp .construct) 2 (some regexpPrototype) [.species]]

def dateFields : List (String × DateField × Nat) :=
  [("FullYear", .year, 3), ("Month", .month, 2), ("Date", .date, 1), ("Hours", .hours, 4), ("Minutes", .minutes, 3),
   ("Seconds", .seconds, 2), ("Milliseconds", .milliseconds, 1)]

def dateMembers : List Member :=
  methods .date [("valueOf", .valueOf, 0), ("toString", .toString, 0)] ++
  [Member.symbolMethod Symbol.toPrimitive (.date .toPrimitive) 1] ++
  methods .date [("toUTCString", .toUtcString, 0)] ++ [Member.synonym "toGMTString" "toUTCString"] ++
  methods .date ([("toISOString", DateFn.toIsoString, 0), ("toDateString", .toDateString, 0), ("toTimeString", .toTimeString, 0),
    ("toLocaleString", .toLocaleString, 0), ("toLocaleDateString", .toLocaleDateString, 0),
    ("toLocaleTimeString", .toLocaleTimeString, 0), ("getTimezoneOffset", .getTimezoneOffset, 0),
    ("getTime", .getTime, 0), ("getYear", .getYear, 0)] ++
    (dateFields.flatMap fun (name, field, count) =>
      [("get" ++ name, DateFn.get field, 0), ("getUTC" ++ name, .get field, 0),
       ("set" ++ name, .set field, count), ("setUTC" ++ name, .set field, count)]) ++
    [("getDay", DateFn.get .day, 0), ("getUTCDay", .get .day, 0), ("setTime", .setTime, 1), ("setYear", .setYear, 1),
     ("toJSON", .toJson, 1)])

def dateSites : List Site := [
  { place := datePrototype, members := dateMembers ++ [Member.link "constructor" dateConstructor] },
  constructorSite dateConstructor "Date" (.date .construct) 7 (some datePrototype)
    (methods .date [("now", .now, 0), ("parse", .parse, 1), ("UTC", .utc, 7)])]

def collectionSites : List Site := [
  { place := mapPrototype
    members := methods .collection [("set", .mapSet, 2), ("get", .mapGet, 1), ("has", .mapHas, 1),
        ("delete", .mapDelete, 1), ("clear", .mapClear, 0)] ++ getters .collection [("size", .mapSize)] ++
      methods .collection [("forEach", .mapForEach, 1), ("values", .mapValues, 0), ("keys", .mapKeys, 0),
        ("entries", .mapEntries, 0)] ++
      [Member.synonym (.symbol Symbol.iterator) "entries", .tag "Map", .link "constructor" mapConstructor] },
  constructorSite mapConstructor "Map" (.collection .constructMap) 0 (some mapPrototype)
    (methods .collection [("groupBy", .groupBy, 2)] ++ [Member.species]),
  { place := setPrototype
    members := methods .collection [("add", .setAdd, 1), ("has", .setHas, 1), ("delete", .setDelete, 1),
        ("clear", .setClear, 0)] ++ getters .collection [("size", .setSize)] ++
      methods .collection [("forEach", .setForEach, 1), ("values", .setValues, 0)] ++
      [Member.synonym "keys" "values", .synonym (.symbol Symbol.iterator) "values"] ++
      methods .collection [("entries", .setEntries, 0)] ++ [Member.tag "Set", .link "constructor" setConstructor] },
  constructorSite setConstructor "Set" (.collection .constructSet) 0 (some setPrototype) [.species],
  { place := weakMapPrototype
    members := methods .collection [("set", .weakMapSet, 2), ("get", .weakMapGet, 1), ("has", .weakMapHas, 1),
        ("delete", .weakMapDelete, 1)] ++ [Member.tag "WeakMap", .link "constructor" weakMapConstructor] },
  constructorSite weakMapConstructor "WeakMap" (.collection .constructWeakMap) 0 (some weakMapPrototype) [],
  { place := weakSetPrototype
    members := methods .collection [("add", .weakSetAdd, 1), ("has", .weakSetHas, 1), ("delete", .weakSetDelete, 1)] ++
      [Member.tag "WeakSet", .link "constructor" weakSetConstructor] },
  constructorSite weakSetConstructor "WeakSet" (.collection .constructWeakSet) 0 (some weakSetPrototype) []]

def viewMethods (name : String) (t : ElementType) : List Member :=
  methods .buffer [("get" ++ name, .viewGet t, 1), ("set" ++ name, .viewSet t, 2)]

def viewTypes : List (String × ElementType) :=
  [("Int8", .int8), ("Uint8", .uint8), ("Int16", .int16), ("Uint16", .uint16), ("Int32", .int32), ("Uint32", .uint32),
   ("BigInt64", .bigInt64), ("BigUint64", .bigUint64), ("Float32", .float32), ("Float64", .float64)]

def bufferSites : List Site := [
  { place := bufferPrototype
    members := getters .buffer [("byteLength", .byteLength false)] ++ methods .buffer [("slice", .slice false, 2)] ++
      [Member.tag "ArrayBuffer", .link "constructor" bufferConstructor] },
  constructorSite bufferConstructor "ArrayBuffer" (.buffer (.construct false)) 1 (some bufferPrototype)
    (methods .buffer [("isView", .isView, 1)] ++ [Member.species]),
  { place := sharedBufferPrototype
    members := getters .buffer [("byteLength", .byteLength true)] ++ methods .buffer [("slice", .slice true, 2)] ++
      [Member.tag "SharedArrayBuffer", .link "constructor" sharedBufferConstructor] },
  constructorSite sharedBufferConstructor "SharedArrayBuffer" (.buffer (.construct true)) 1 (some sharedBufferPrototype)
    [.species],
  { place := dataViewPrototype
    members := getters .buffer [("buffer", .viewBuffer), ("byteLength", .viewByteLength),
        ("byteOffset", .viewByteOffset)] ++ (viewTypes.flatMap fun (name, t) => viewMethods name t) ++
      [Member.tag "DataView", .link "constructor" dataViewConstructor] },
  constructorSite dataViewConstructor "DataView" (.buffer .constructView) 1 (some dataViewPrototype) [],
  { place := typedArrayPrototype
    members := getters .typedArray [("length", .length), ("buffer", .buffer), ("byteLength", .byteLength),
        ("byteOffset", .byteOffset)] ++
      methods .typedArray [("at", .at, 1), ("with", .withItem, 2), ("set", .set, 1), ("values", .values, 0)] ++
      [Member.synonym (.symbol Symbol.iterator) "values", .getter (.symbol Symbol.toStringTag) (.typedArray .toStringTag)] ++
      methods .typedArray [("keys", .keys, 0), ("entries", .entries, 0), ("copyWithin", .copyWithin, 2),
        ("every", .every, 1), ("some", .some, 1), ("forEach", .forEach, 1), ("map", .map, 1), ("filter", .filter, 1),
        ("reduce", .reduce, 1), ("reduceRight", .reduceRight, 1), ("fill", .fill, 1), ("find", .find, 1),
        ("findIndex", .findIndex, 1), ("findLast", .findLast, 1), ("findLastIndex", .findLastIndex, 1),
        ("reverse", .reverse, 0), ("toReversed", .toReversed, 0), ("slice", .slice, 2), ("subarray", .subarray, 2),
        ("sort", .sort, 1), ("toSorted", .toSorted, 1), ("join", .join, 1), ("indexOf", .indexOf, 1),
        ("lastIndexOf", .lastIndexOf, 1), ("includes", .includes, 1)] ++
      methods .array [("toString", .toString, 0), ("toLocaleString", .toLocaleString, 0)] ++
      [Member.link "constructor" typedArrayConstructor] },
  constructorSite typedArrayConstructor "TypedArray" (.typedArray .constructAbstract) 0 (some typedArrayPrototype)
    (methods .typedArray [("from", .fromIterable, 1), ("of", .of, 0)] ++ [Member.species])]

def elementSites (t : ArrayElement) : List Site :=
  let width := Member.constant "BYTES_PER_ELEMENT" (.ofNat t.width)
  [{ place := elementPrototype t
     proto := some typedArrayPrototype
     members := [width, .link "constructor" (elementConstructor t)] },
   constructorSite (elementConstructor t) t.name (.typedArray (.construct t)) 3 (some (elementPrototype t)) [width]
     typedArrayConstructor]

def promiseSites : List Site := [
  { place := promisePrototype
    members := methods .promise [("then", .thenDo, 2), ("catch", .catchWith, 1), ("finally", .finallyDo, 1)] ++
      [Member.tag "Promise", .link "constructor" promiseConstructor] },
  constructorSite promiseConstructor "Promise" (.promise .construct) 1 (some promisePrototype)
    (methods .promise [("resolve", .resolve, 1), ("reject", .reject, 1), ("all", .all, 1),
      ("allSettled", .allSettled, 1), ("any", .any, 1), ("race", .race, 1), ("withResolvers", .withResolvers, 0)] ++
      [Member.species])]

end Embedding.Guest.Realm

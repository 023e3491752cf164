import Embedding.Guest.Object

namespace Embedding.Guest

namespace Intrinsic

def globalObject : ObjectId := 0

def objectPrototype : ObjectId := 1

def functionPrototype : ObjectId := 2

def arrayPrototype : ObjectId := 3

def iteratorPrototype : ObjectId := 4

def arrayIteratorPrototype : ObjectId := 5

def mapIteratorPrototype : ObjectId := 6

def setIteratorPrototype : ObjectId := 7

def textIteratorPrototype : ObjectId := 8

def matchIteratorPrototype : ObjectId := 9

def generatorPrototype : ObjectId := 10

def generatorFunctionPrototype : ObjectId := 11

def asyncFunctionPrototype : ObjectId := 12

def asyncGeneratorFunctionPrototype : ObjectId := 13

def asyncGeneratorPrototype : ObjectId := 14

def numberPrototype : ObjectId := 15

def booleanPrototype : ObjectId := 16

def stringPrototype : ObjectId := 17

def symbolPrototype : ObjectId := 18

def bigintPrototype : ObjectId := 19

def datePrototype : ObjectId := 20

def regexpPrototype : ObjectId := 21

def mapPrototype : ObjectId := 22

def setPrototype : ObjectId := 23

def weakMapPrototype : ObjectId := 24

def weakSetPrototype : ObjectId := 25

def bufferPrototype : ObjectId := 26

def sharedBufferPrototype : ObjectId := 27

def dataViewPrototype : ObjectId := 28

def typedArrayPrototype : ObjectId := 29

def promisePrototype : ObjectId := 30

def asyncIteratorPrototype : ObjectId := 31

def arrayConstructor : ObjectId := 33

def promiseConstructor : ObjectId := 34

def regexpConstructor : ObjectId := 35

def bufferConstructor : ObjectId := 36

def sharedBufferConstructor : ObjectId := 37

def typedArrayConstructor : ObjectId := 38

def throwTypeError : ObjectId := 39

def objectConstructor : ObjectId := 40

def functionConstructor : ObjectId := 41

def arrayValues : ObjectId := 42

def errorIndex : ErrorKind → Nat
  | .error => 0
  | .eval => 1
  | .range => 2
  | .reference => 3
  | .syntaxError => 4
  | .type => 5
  | .uri => 6
  | .internal => 7
  | .aggregate => 8

def errorPrototype (k : ErrorKind) : ObjectId := 50 + errorIndex k

def errorConstructor (k : ErrorKind) : ObjectId := 60 + errorIndex k

def elementIndex : ArrayElement → Nat
  | .clamped => 0
  | .plain .int8 => 1
  | .plain .int16 => 2
  | .plain .int32 => 3
  | .plain .uint8 => 4
  | .plain .uint16 => 5
  | .plain .uint32 => 6
  | .plain .float32 => 7
  | .plain .float64 => 8
  | .plain .bigInt64 => 9
  | .plain .bigUint64 => 10

def elementPrototype (t : ArrayElement) : ObjectId := 70 + elementIndex t

def elementConstructor (t : ArrayElement) : ObjectId := 85 + elementIndex t

def numberConstructor : ObjectId := 100

def booleanConstructor : ObjectId := 101

def stringConstructor : ObjectId := 102

def symbolConstructor : ObjectId := 103

def bigintConstructor : ObjectId := 104

def dateConstructor : ObjectId := 105

def mapConstructor : ObjectId := 106

def setConstructor : ObjectId := 107

def weakMapConstructor : ObjectId := 108

def weakSetConstructor : ObjectId := 109

def dataViewConstructor : ObjectId := 110

def proxyConstructor : ObjectId := 111

def math : ObjectId := 112

def reflect : ObjectId := 113

def json : ObjectId := 114

def generatorFunctionConstructor : ObjectId := 115

def asyncFunctionConstructor : ObjectId := 116

def unscopables : ObjectId := 118

def parseInt : ObjectId := 119

def parseFloat : ObjectId := 120

/-- The places that are taken; other objects of the realm come behind them. -/
def reserved : Nat := 130

end Intrinsic

end Embedding.Guest

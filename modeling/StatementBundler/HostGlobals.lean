/-!
# Names provided by the host

A statement may read these names without any module defining or importing them.
-/

namespace StatementBundler

/-- The names that every host of a bundle provides. -/
def hostGlobals : List String :=
  ["console", "globalThis", "window", "document", "Math", "JSON", "Date", "String", "Number",
   "Boolean", "Symbol", "BigInt", "Array", "Object", "Function", "RegExp", "Promise", "Proxy",
   "Reflect", "Map", "Set", "WeakMap", "WeakSet", "Error", "TypeError", "RangeError", "undefined",
   "NaN", "Infinity", "parseInt", "parseFloat", "isNaN", "isFinite", "setTimeout", "clearTimeout",
   "setInterval", "clearInterval", "self", "Intl", "encodeURI", "decodeURI", "encodeURIComponent",
   "decodeURIComponent", "queueMicrotask", "structuredClone", "ArrayBuffer", "DataView",
   "Int8Array", "Uint8Array", "Uint8ClampedArray", "Int16Array", "Uint16Array", "Int32Array",
   "Uint32Array", "Float32Array", "Float64Array", "BigInt64Array", "BigUint64Array"]

end StatementBundler

import Faultline.Value.Kind

/-!
# The manual of kinds

What is written about kinds and about their parts. A template can ask for it.
-/

namespace Faultline.ValueKind

/-- A text of several lines. -/
def page (lines : List String) : Text := Text.join (text "\n") (lines.map text)

/-- What the manual says about a kind. -/
def manual? : ValueKind → Option Text
  | .bool =>
    some (page [
      "bool(x) -> bool",
      "",
      "Returns True when the argument x is true, False otherwise.",
      "The builtins True and False are the only two instances of the class bool.",
      "The class bool is a subclass of the class int, and cannot be subclassed."])
  | .int =>
    some (page [
      "int([x]) -> integer",
      "int(x, base=10) -> integer",
      "",
      "Convert a number or string to an integer, or return 0 if no arguments",
      "are given.  If x is a number, return x.__int__().  For floating point",
      "numbers, this truncates towards zero.",
      "",
      "If x is not a number or if base is given, then x must be a string,",
      "bytes, or bytearray instance representing an integer literal in the",
      "given base.  The literal can be preceded by '+' or '-' and be surrounded",
      "by whitespace.  The base defaults to 10.  Valid bases are 0 and 2-36.",
      "Base 0 means to interpret the base from the string as an integer literal.",
      ">>> int('0b100', base=0)",
      "4"])
  | .float => some (text "Convert a string or number to a floating point number, if possible.")
  | .string =>
    some (page [
      "str(object='') -> str",
      "str(bytes_or_buffer[, encoding[, errors]]) -> str",
      "",
      "Create a new string object from the given object. If encoding or",
      "errors is specified, then the object must expose a data buffer",
      "that will be decoded using the given encoding and error handler.",
      "Otherwise, returns the result of object.__str__() (if defined)",
      "or repr(object).",
      "encoding defaults to sys.getdefaultencoding().",
      "errors defaults to 'strict'."])
  | .bytes =>
    some (page [
      "bytes(iterable_of_ints) -> bytes",
      "bytes(string, encoding[, errors]) -> bytes",
      "bytes(bytes_or_buffer) -> immutable copy of bytes_or_buffer",
      "bytes(int) -> bytes object of size given by the parameter initialized with null bytes",
      "bytes() -> empty bytes object",
      "",
      "Construct an immutable array of bytes from:",
      "  - an iterable yielding integers in range(256)",
      "  - a text string encoded using the specified encoding",
      "  - any object implementing the buffer API.",
      "  - an integer"])
  | .list =>
    some (page [
      "Built-in mutable sequence.",
      "",
      "If no argument is given, the constructor creates a new empty list.",
      "The argument must be an iterable if specified."])
  | .tuple =>
    some (page [
      "Built-in immutable sequence.",
      "",
      "If no argument is given, the constructor returns an empty tuple.",
      "If iterable is specified the tuple is initialized from iterable's items.",
      "",
      "If the argument is a tuple, the return value is the same object."])
  | .mapping =>
    some (page [
      "dict() -> new empty dictionary",
      "dict(mapping) -> new dictionary initialized from a mapping object's",
      "    (key, value) pairs",
      "dict(iterable) -> new dictionary initialized as if via:",
      "    d = \x7b\x7d",
      "    for k, v in iterable:",
      "        d[k] = v",
      "dict(**kwargs) -> new dictionary initialized with the name=value pairs",
      "    in the keyword argument list.  For example:  dict(one=1, two=2)"])
  | .location =>
    some (page [
      "",
      "    Location metadata attached to a syntax node.",
      "",
      "    Attributes:",
      "        line: Line of the node in the file being compiled (0 if unknown)",
      "        file: Explicit file override, if the node came from another file",
      "        file_line: Line inside the overriding file",
      "    "])
  | .kind =>
    some (page [
      "type(object) -> the object's type",
      "type(name, bases, dict, **kwds) -> a new type"])
  | .narrowed =>
    some (page [
      "Represent a PEP 585 generic type",
      "",
      "E.g. for t = list[int], t.__origin__ is list and t.__args__ is (int,)."])
  | .operation => some (text "Create a bound instance method object.")
  | .anything =>
    some (page [
      "The base class of the class hierarchy.",
      "",
      "When called, it accepts no arguments and returns a new featureless",
      "instance that has no instance attributes and cannot be given any.",
      ""])
  | .none | .derivedField | .storedField => Option.none

/-- How the values of a kind are made, if the manual has it. -/
def signature? : ValueKind → Option Text
  | .float => some (text "(x=0, /)")
  | .list | .tuple => some (text "(iterable=(), /)")
  | .operation => some (text "(function, instance, /)")
  | .anything => some (text "()")
  | _ => Option.none

/-- What the manual says about a field of a kind. -/
def fieldManual? (k : ValueKind) (field : Text) : Option Text :=
  match k with
  | .int | .float =>
    if field = text "real" then some (text "the real part of a complex number")
    else if field = text "imag" then some (text "the imaginary part of a complex number")
    else if field = text "numerator" then
      some (text "the numerator of a rational number in lowest terms")
    else if field = text "denominator" then
      some (text "the denominator of a rational number in lowest terms")
    else Option.none
  | _ => Option.none

/-- What the manual says about an operation of location metadata. -/
def operationManual? (name : Text) : Option Text :=
  if name = text "from_keywords" then
    some (text "Build metadata from a mapping or a sequence of (key, value) pairs.")
  else Option.none

end Faultline.ValueKind

import TestSkeleton.Text.Basic

set_option autoImplicit false

/-! # Doc comments of built-in methods

What operators and the methods of built-in classes say about themselves.
-/

namespace TestSkeleton.Builtin

/-- The doc comments of operators, which are the same in all classes. -/
def operatorDocs : List (String × String) := [
  ("__abs__",
"abs(self)"),
  ("__add__",
"Return self+value."),
  ("__and__",
"Return self&value."),
  ("__bool__",
"True if self else False"),
  ("__call__",
"Call self as a function."),
  ("__contains__",
"Return key in self."),
  ("__delattr__",
"Implement delattr(self, name)."),
  ("__delete__",
"Delete an attribute of instance."),
  ("__delitem__",
"Delete self[key]."),
  ("__divmod__",
"Return divmod(self, value)."),
  ("__eq__",
"Return self==value."),
  ("__float__",
"float(self)"),
  ("__floordiv__",
"Return self//value."),
  ("__ge__",
"Return self>=value."),
  ("__get__",
"Return an attribute of instance, which is of type owner."),
  ("__getattribute__",
"Return getattr(self, name)."),
  ("__getitem__",
"Return self[key]."),
  ("__gt__",
"Return self>value."),
  ("__hash__",
"Return hash(self)."),
  ("__iadd__",
"Implement self+=value."),
  ("__iand__",
"Return self&=value."),
  ("__imul__",
"Implement self*=value."),
  ("__index__",
"Return self converted to an integer, if self is suitable for use as an index into a list."),
  ("__init__",
"Initialize self.  See help(type(self)) for accurate signature."),
  ("__int__",
"int(self)"),
  ("__invert__",
"~self"),
  ("__ior__",
"Return self|=value."),
  ("__isub__",
"Return self-=value."),
  ("__iter__",
"Implement iter(self)."),
  ("__ixor__",
"Return self^=value."),
  ("__le__",
"Return self<=value."),
  ("__len__",
"Return len(self)."),
  ("__lshift__",
"Return self<<value."),
  ("__lt__",
"Return self<value."),
  ("__mod__",
"Return self%value."),
  ("__mul__",
"Return self*value."),
  ("__ne__",
"Return self!=value."),
  ("__neg__",
"-self"),
  ("__next__",
"Implement next(self)."),
  ("__or__",
"Return self|value."),
  ("__pos__",
"+self"),
  ("__pow__",
"Return pow(self, value, mod)."),
  ("__radd__",
"Return value+self."),
  ("__rand__",
"Return value&self."),
  ("__rdivmod__",
"Return divmod(value, self)."),
  ("__repr__",
"Return repr(self)."),
  ("__rfloordiv__",
"Return value//self."),
  ("__rlshift__",
"Return value<<self."),
  ("__rmod__",
"Return value%self."),
  ("__rmul__",
"Return value*self."),
  ("__ror__",
"Return value|self."),
  ("__rpow__",
"Return pow(value, self, mod)."),
  ("__rrshift__",
"Return value>>self."),
  ("__rshift__",
"Return self>>value."),
  ("__rsub__",
"Return value-self."),
  ("__rtruediv__",
"Return value/self."),
  ("__rxor__",
"Return value^self."),
  ("__set__",
"Set an attribute of instance to value."),
  ("__setattr__",
"Implement setattr(self, name, value)."),
  ("__setitem__",
"Set self[key] to value."),
  ("__str__",
"Return str(self)."),
  ("__sub__",
"Return self-value."),
  ("__truediv__",
"Return self/value."),
  ("__xor__",
"Return self^value.")]

/-- The doc comments of the other attributes of classes. -/
def methodDocs : List (String × String × String) := [
  ("object", "__class__",
"the object's class"),
  ("object", "__dir__",
"Default dir() implementation."),
  ("object", "__format__",
"Default object formatter."),
  ("object", "__getstate__",
"Helper for pickle."),
  ("object", "__init_subclass__",
"This method is called when a class is subclassed.

The default implementation does nothing. It may be
overridden to extend subclasses.
"),
  ("object", "__reduce__",
"Helper for pickle."),
  ("object", "__reduce_ex__",
"Helper for pickle."),
  ("object", "__sizeof__",
"Size of object in memory, in bytes."),
  ("object", "__subclasshook__",
"Abstract classes can override this to customize issubclass().

This is invoked early on by abc.ABCMeta.__subclasscheck__().
It should return True, False or NotImplemented.  If it returns
NotImplemented, the normal algorithm is used.  Otherwise, it
overrides the normal algorithm (and the outcome is cached).
"),
  ("BaseException", "__cause__",
"exception cause"),
  ("BaseException", "__context__",
"exception context"),
  ("BaseException", "add_note",
"Exception.add_note(note) --
    add a note to the exception"),
  ("BaseException", "with_traceback",
"Exception.with_traceback(tb) --
    set self.__traceback__ to tb and return self."),
  ("bytearray", "maketrans",
"Return a translation table useable for the bytes or bytearray translate method.

The returned table will be one where each byte in frm is mapped to the byte at
the same position in to.

The bytes objects frm and to must be of the same length."),
  ("bytes", "maketrans",
"Return a translation table useable for the bytes or bytearray translate method.

The returned table will be one where each byte in frm is mapped to the byte at
the same position in to.

The bytes objects frm and to must be of the same length."),
  ("complex", "__complex__",
"Convert this value to exact type complex."),
  ("complex", "__format__",
"Convert to a string according to format_spec."),
  ("complex", "conjugate",
"Return the complex conjugate of its argument. (3-4j).conjugate() == 3+4j."),
  ("complex", "imag",
"the imaginary part of a complex number"),
  ("complex", "real",
"the real part of a complex number"),
  ("dict", "__class_getitem__",
"See PEP 585"),
  ("dict", "__contains__",
"True if the dictionary has the specified key, else False."),
  ("dict", "__getitem__",
"x.__getitem__(y) <==> x[y]"),
  ("dict", "__reversed__",
"Return a reverse iterator over the dict keys."),
  ("dict", "__sizeof__",
"D.__sizeof__() -> size of D in memory, in bytes"),
  ("dict", "clear",
"D.clear() -> None.  Remove all items from D."),
  ("dict", "copy",
"D.copy() -> a shallow copy of D"),
  ("dict", "fromkeys",
"Create a new dictionary with keys from iterable and values set to value."),
  ("dict", "get",
"Return the value for key if key is in the dictionary, else default."),
  ("dict", "items",
"D.items() -> a set-like object providing a view on D's items"),
  ("dict", "keys",
"D.keys() -> a set-like object providing a view on D's keys"),
  ("dict", "pop",
"D.pop(k[,d]) -> v, remove specified key and return the corresponding value.

If the key is not found, return the default if given; otherwise,
raise a KeyError."),
  ("dict", "popitem",
"Remove and return a (key, value) pair as a 2-tuple.

Pairs are returned in LIFO (last-in, first-out) order.
Raises KeyError if the dict is empty."),
  ("dict", "setdefault",
"Insert key with a value of default if key is not in the dictionary.

Return the value for key if key is in the dictionary, else default."),
  ("dict", "update",
"D.update([E, ]**F) -> None.  Update D from dict/iterable E and F.
If E is present and has a .keys() method, then does:  for k in E: D[k] = E[k]
If E is present and lacks a .keys() method, then does:  for k, v in E: D[k] = v
In either case, this is followed by: for k in F:  D[k] = F[k]"),
  ("dict", "values",
"D.values() -> an object providing a view on D's values"),
  ("enumerate", "__class_getitem__",
"See PEP 585"),
  ("enumerate", "__reduce__",
"Return state information for pickling."),
  ("filter", "__reduce__",
"Return state information for pickling."),
  ("float", "__ceil__",
"Return the ceiling as an Integral."),
  ("float", "__floor__",
"Return the floor as an Integral."),
  ("float", "__format__",
"Formats the float according to format_spec."),
  ("float", "__getformat__",
"You probably don't want to use this function.

  typestr
    Must be 'double' or 'float'.

It exists mainly to be used in Python's test suite.

This function returns whichever of 'unknown', 'IEEE, big-endian' or 'IEEE,
little-endian' best describes the format of floating point numbers used by the
C type named by typestr."),
  ("float", "__round__",
"Return the Integral closest to x, rounding half toward even.

When an argument is passed, work like built-in round(x, ndigits)."),
  ("float", "__trunc__",
"Return the Integral closest to x between 0 and x."),
  ("float", "as_integer_ratio",
"Return integer ratio.

Return a pair of integers, whose ratio is exactly equal to the original float
and with a positive denominator.

Raise OverflowError on infinities and a ValueError on NaNs.

>>> (10.0).as_integer_ratio()
(10, 1)
>>> (0.0).as_integer_ratio()
(0, 1)
>>> (-.25).as_integer_ratio()
(-1, 4)"),
  ("float", "conjugate",
"Return self, the complex conjugate of any float."),
  ("float", "fromhex",
"Create a floating-point number from a hexadecimal string.

>>> float.fromhex('0x1.ffffp10')
2047.984375
>>> float.fromhex('-0x1p-1074')
-5e-324"),
  ("float", "hex",
"Return a hexadecimal representation of a floating-point number.

>>> (-0.1).hex()
'-0x1.999999999999ap-4'
>>> 3.14159.hex()
'0x1.921f9f01b866ep+1'"),
  ("float", "imag",
"the imaginary part of a complex number"),
  ("float", "is_integer",
"Return True if the float is an integer."),
  ("float", "real",
"the real part of a complex number"),
  ("frozenset", "__class_getitem__",
"See PEP 585"),
  ("frozenset", "__contains__",
"x.__contains__(y) <==> y in x."),
  ("frozenset", "__reduce__",
"Return state information for pickling."),
  ("frozenset", "__sizeof__",
"S.__sizeof__() -> size of S in memory, in bytes"),
  ("frozenset", "copy",
"Return a shallow copy of a set."),
  ("frozenset", "difference",
"Return the difference of two or more sets as a new set.

(i.e. all elements that are in this set but not the others.)"),
  ("frozenset", "intersection",
"Return the intersection of two sets as a new set.

(i.e. all elements that are in both sets.)"),
  ("frozenset", "isdisjoint",
"Return True if two sets have a null intersection."),
  ("frozenset", "issubset",
"Test whether every element in the set is in other."),
  ("frozenset", "issuperset",
"Test whether every element in other is in the set."),
  ("frozenset", "symmetric_difference",
"Return the symmetric difference of two sets as a new set.

(i.e. all elements that are in exactly one of the sets.)"),
  ("frozenset", "union",
"Return the union of sets as a new set.

(i.e. all elements that are in either set.)"),
  ("int", "__ceil__",
"Ceiling of an Integral returns itself."),
  ("int", "__floor__",
"Flooring an Integral returns itself."),
  ("int", "__round__",
"Rounding an Integral returns itself.

Rounding with an ndigits argument also returns an integer."),
  ("int", "__sizeof__",
"Returns size in memory, in bytes."),
  ("int", "__trunc__",
"Truncating an Integral returns itself."),
  ("int", "as_integer_ratio",
"Return integer ratio.

Return a pair of integers, whose ratio is exactly equal to the original int
and with a positive denominator.

>>> (10).as_integer_ratio()
(10, 1)
>>> (-10).as_integer_ratio()
(-10, 1)
>>> (0).as_integer_ratio()
(0, 1)"),
  ("int", "bit_count",
"Number of ones in the binary representation of the absolute value of self.

Also known as the population count.

>>> bin(13)
'0b1101'
>>> (13).bit_count()
3"),
  ("int", "bit_length",
"Number of bits necessary to represent self in binary.

>>> bin(37)
'0b100101'
>>> (37).bit_length()
6"),
  ("int", "conjugate",
"Returns self, the complex conjugate of any int."),
  ("int", "denominator",
"the denominator of a rational number in lowest terms"),
  ("int", "from_bytes",
"Return the integer represented by the given array of bytes.

  bytes
    Holds the array of bytes to convert.  The argument must either
    support the buffer protocol or be an iterable object producing bytes.
    Bytes and bytearray are examples of built-in objects that support the
    buffer protocol.
  byteorder
    The byte order used to represent the integer.  If byteorder is 'big',
    the most significant byte is at the beginning of the byte array.  If
    byteorder is 'little', the most significant byte is at the end of the
    byte array.  To request the native byte order of the host system, use
    `sys.byteorder' as the byte order value.  Default is to use 'big'.
  signed
    Indicates whether two's complement is used to represent the integer."),
  ("int", "imag",
"the imaginary part of a complex number"),
  ("int", "numerator",
"the numerator of a rational number in lowest terms"),
  ("int", "real",
"the real part of a complex number"),
  ("int", "to_bytes",
"Return an array of bytes representing an integer.

  length
    Length of bytes object to use.  An OverflowError is raised if the
    integer is not representable with the given number of bytes.  Default
    is length 1.
  byteorder
    The byte order used to represent the integer.  If byteorder is 'big',
    the most significant byte is at the beginning of the byte array.  If
    byteorder is 'little', the most significant byte is at the end of the
    byte array.  To request the native byte order of the host system, use
    `sys.byteorder' as the byte order value.  Default is to use 'big'.
  signed
    Determines whether two's complement is used to represent the integer.
    If signed is False and a negative integer is given, an OverflowError
    is raised."),
  ("list", "__class_getitem__",
"See PEP 585"),
  ("list", "__getitem__",
"x.__getitem__(y) <==> x[y]"),
  ("list", "__reversed__",
"Return a reverse iterator over the list."),
  ("list", "__sizeof__",
"Return the size of the list in memory, in bytes."),
  ("list", "append",
"Append object to the end of the list."),
  ("list", "clear",
"Remove all items from list."),
  ("list", "copy",
"Return a shallow copy of the list."),
  ("list", "count",
"Return number of occurrences of value."),
  ("list", "extend",
"Extend list by appending elements from the iterable."),
  ("list", "index",
"Return first index of value.

Raises ValueError if the value is not present."),
  ("list", "insert",
"Insert object before index."),
  ("list", "pop",
"Remove and return item at index (default last).

Raises IndexError if list is empty or index is out of range."),
  ("list", "remove",
"Remove first occurrence of value.

Raises ValueError if the value is not present."),
  ("list", "reverse",
"Reverse *IN PLACE*."),
  ("list", "sort",
"Sort the list in ascending order and return None.

The sort is in-place (i.e. the list itself is modified) and stable (i.e. the
order of two equal elements is maintained).

If a key function is given, apply it once to each list item and sort them,
ascending or descending, according to their function values.

The reverse flag can be set to sort in descending order."),
  ("map", "__reduce__",
"Return state information for pickling."),
  ("method", "__func__",
"the function (or other callable) implementing a method"),
  ("method", "__self__",
"the instance to which a method is bound"),
  ("module", "__dir__",
"__dir__() -> list
specialized dir() implementation"),
  ("property", "__set_name__",
"Method to set name of a property."),
  ("property", "deleter",
"Descriptor to obtain a copy of the property with a different deleter."),
  ("property", "getter",
"Descriptor to obtain a copy of the property with a different getter."),
  ("property", "setter",
"Descriptor to obtain a copy of the property with a different setter."),
  ("range", "__reversed__",
"Return a reverse iterator."),
  ("range", "count",
"rangeobject.count(value) -> integer -- return number of occurrences of value"),
  ("range", "index",
"rangeobject.index(value) -> integer -- return index of value.
Raise ValueError if the value is not present."),
  ("reversed", "__length_hint__",
"Private method returning an estimate of len(list(it))."),
  ("reversed", "__reduce__",
"Return state information for pickling."),
  ("reversed", "__setstate__",
"Set state information for unpickling."),
  ("set", "__class_getitem__",
"See PEP 585"),
  ("set", "__contains__",
"x.__contains__(y) <==> y in x."),
  ("set", "__reduce__",
"Return state information for pickling."),
  ("set", "__sizeof__",
"S.__sizeof__() -> size of S in memory, in bytes"),
  ("set", "add",
"Add an element to a set.

This has no effect if the element is already present."),
  ("set", "clear",
"Remove all elements from this set."),
  ("set", "copy",
"Return a shallow copy of a set."),
  ("set", "difference",
"Return the difference of two or more sets as a new set.

(i.e. all elements that are in this set but not the others.)"),
  ("set", "difference_update",
"Remove all elements of another set from this set."),
  ("set", "discard",
"Remove an element from a set if it is a member.

Unlike set.remove(), the discard() method does not raise
an exception when an element is missing from the set."),
  ("set", "intersection",
"Return the intersection of two sets as a new set.

(i.e. all elements that are in both sets.)"),
  ("set", "intersection_update",
"Update a set with the intersection of itself and another."),
  ("set", "isdisjoint",
"Return True if two sets have a null intersection."),
  ("set", "issubset",
"Test whether every element in the set is in other."),
  ("set", "issuperset",
"Test whether every element in other is in the set."),
  ("set", "pop",
"Remove and return an arbitrary set element.
Raises KeyError if the set is empty."),
  ("set", "remove",
"Remove an element from a set; it must be a member.

If the element is not a member, raise a KeyError."),
  ("set", "symmetric_difference",
"Return the symmetric difference of two sets as a new set.

(i.e. all elements that are in exactly one of the sets.)"),
  ("set", "symmetric_difference_update",
"Update a set with the symmetric difference of itself and another."),
  ("set", "union",
"Return the union of sets as a new set.

(i.e. all elements that are in either set.)"),
  ("set", "update",
"Update a set with the union of itself and others."),
  ("str", "__format__",
"Return a formatted version of the string as described by format_spec."),
  ("str", "__sizeof__",
"Return the size of the string in memory, in bytes."),
  ("str", "capitalize",
"Return a capitalized version of the string.

More specifically, make the first character have upper case and the rest lower
case."),
  ("str", "casefold",
"Return a version of the string suitable for caseless comparisons."),
  ("str", "center",
"Return a centered string of length width.

Padding is done using the specified fill character (default is a space)."),
  ("str", "count",
"S.count(sub[, start[, end]]) -> int

Return the number of non-overlapping occurrences of substring sub in
string S[start:end].  Optional arguments start and end are
interpreted as in slice notation."),
  ("str", "encode",
"Encode the string using the codec registered for encoding.

  encoding
    The encoding in which to encode the string.
  errors
    The error handling scheme to use for encoding errors.
    The default is 'strict' meaning that encoding errors raise a
    UnicodeEncodeError.  Other possible values are 'ignore', 'replace' and
    'xmlcharrefreplace' as well as any other name registered with
    codecs.register_error that can handle UnicodeEncodeErrors."),
  ("str", "endswith",
"S.endswith(suffix[, start[, end]]) -> bool

Return True if S ends with the specified suffix, False otherwise.
With optional start, test S beginning at that position.
With optional end, stop comparing S at that position.
suffix can also be a tuple of strings to try."),
  ("str", "expandtabs",
"Return a copy where all tab characters are expanded using spaces.

If tabsize is not given, a tab size of 8 characters is assumed."),
  ("str", "find",
"S.find(sub[, start[, end]]) -> int

Return the lowest index in S where substring sub is found,
such that sub is contained within S[start:end].  Optional
arguments start and end are interpreted as in slice notation.

Return -1 on failure."),
  ("str", "format",
"S.format(*args, **kwargs) -> str

Return a formatted version of S, using substitutions from args and kwargs.
The substitutions are identified by braces ('\x7b' and '\x7d')."),
  ("str", "format_map",
"S.format_map(mapping) -> str

Return a formatted version of S, using substitutions from mapping.
The substitutions are identified by braces ('\x7b' and '\x7d')."),
  ("str", "index",
"S.index(sub[, start[, end]]) -> int

Return the lowest index in S where substring sub is found,
such that sub is contained within S[start:end].  Optional
arguments start and end are interpreted as in slice notation.

Raises ValueError when the substring is not found."),
  ("str", "isalnum",
"Return True if the string is an alpha-numeric string, False otherwise.

A string is alpha-numeric if all characters in the string are alpha-numeric and
there is at least one character in the string."),
  ("str", "isalpha",
"Return True if the string is an alphabetic string, False otherwise.

A string is alphabetic if all characters in the string are alphabetic and there
is at least one character in the string."),
  ("str", "isascii",
"Return True if all characters in the string are ASCII, False otherwise.

ASCII characters have code points in the range U+0000-U+007F.
Empty string is ASCII too."),
  ("str", "isdecimal",
"Return True if the string is a decimal string, False otherwise.

A string is a decimal string if all characters in the string are decimal and
there is at least one character in the string."),
  ("str", "isdigit",
"Return True if the string is a digit string, False otherwise.

A string is a digit string if all characters in the string are digits and there
is at least one character in the string."),
  ("str", "isidentifier",
"Return True if the string is a valid Python identifier, False otherwise.

Call keyword.iskeyword(s) to test whether string s is a reserved identifier,
such as \"def\" or \"class\"."),
  ("str", "islower",
"Return True if the string is a lowercase string, False otherwise.

A string is lowercase if all cased characters in the string are lowercase and
there is at least one cased character in the string."),
  ("str", "isnumeric",
"Return True if the string is a numeric string, False otherwise.

A string is numeric if all characters in the string are numeric and there is at
least one character in the string."),
  ("str", "isprintable",
"Return True if the string is printable, False otherwise.

A string is printable if all of its characters are considered printable in
repr() or if it is empty."),
  ("str", "isspace",
"Return True if the string is a whitespace string, False otherwise.

A string is whitespace if all characters in the string are whitespace and there
is at least one character in the string."),
  ("str", "istitle",
"Return True if the string is a title-cased string, False otherwise.

In a title-cased string, upper- and title-case characters may only
follow uncased characters and lowercase characters only cased ones."),
  ("str", "isupper",
"Return True if the string is an uppercase string, False otherwise.

A string is uppercase if all cased characters in the string are uppercase and
there is at least one cased character in the string."),
  ("str", "join",
"Concatenate any number of strings.

The string whose method is called is inserted in between each given string.
The result is returned as a new string.

Example: '.'.join(['ab', 'pq', 'rs']) -> 'ab.pq.rs'"),
  ("str", "ljust",
"Return a left-justified string of length width.

Padding is done using the specified fill character (default is a space)."),
  ("str", "lower",
"Return a copy of the string converted to lowercase."),
  ("str", "lstrip",
"Return a copy of the string with leading whitespace removed.

If chars is given and not None, remove characters in chars instead."),
  ("str", "maketrans",
"Return a translation table usable for str.translate().

If there is only one argument, it must be a dictionary mapping Unicode
ordinals (integers) or characters to Unicode ordinals, strings or None.
Character keys will be then converted to ordinals.
If there are two arguments, they must be strings of equal length, and
in the resulting dictionary, each character in x will be mapped to the
character at the same position in y. If there is a third argument, it
must be a string, whose characters will be mapped to None in the result."),
  ("str", "partition",
"Partition the string into three parts using the given separator.

This will search for the separator in the string.  If the separator is found,
returns a 3-tuple containing the part before the separator, the separator
itself, and the part after it.

If the separator is not found, returns a 3-tuple containing the original string
and two empty strings."),
  ("str", "removeprefix",
"Return a str with the given prefix string removed if present.

If the string starts with the prefix string, return string[len(prefix):].
Otherwise, return a copy of the original string."),
  ("str", "removesuffix",
"Return a str with the given suffix string removed if present.

If the string ends with the suffix string and that suffix is not empty,
return string[:-len(suffix)]. Otherwise, return a copy of the original
string."),
  ("str", "replace",
"Return a copy with all occurrences of substring old replaced by new.

  count
    Maximum number of occurrences to replace.
    -1 (the default value) means replace all occurrences.

If the optional argument count is given, only the first count occurrences are
replaced."),
  ("str", "rfind",
"S.rfind(sub[, start[, end]]) -> int

Return the highest index in S where substring sub is found,
such that sub is contained within S[start:end].  Optional
arguments start and end are interpreted as in slice notation.

Return -1 on failure."),
  ("str", "rindex",
"S.rindex(sub[, start[, end]]) -> int

Return the highest index in S where substring sub is found,
such that sub is contained within S[start:end].  Optional
arguments start and end are interpreted as in slice notation.

Raises ValueError when the substring is not found."),
  ("str", "rjust",
"Return a right-justified string of length width.

Padding is done using the specified fill character (default is a space)."),
  ("str", "rpartition",
"Partition the string into three parts using the given separator.

This will search for the separator in the string, starting at the end. If
the separator is found, returns a 3-tuple containing the part before the
separator, the separator itself, and the part after it.

If the separator is not found, returns a 3-tuple containing two empty strings
and the original string."),
  ("str", "rsplit",
"Return a list of the substrings in the string, using sep as the separator string.

  sep
    The separator used to split the string.

    When set to None (the default value), will split on any whitespace
    character (including \\n \\r \\t \\f and spaces) and will discard
    empty strings from the result.
  maxsplit
    Maximum number of splits.
    -1 (the default value) means no limit.

Splitting starts at the end of the string and works to the front."),
  ("str", "rstrip",
"Return a copy of the string with trailing whitespace removed.

If chars is given and not None, remove characters in chars instead."),
  ("str", "split",
"Return a list of the substrings in the string, using sep as the separator string.

  sep
    The separator used to split the string.

    When set to None (the default value), will split on any whitespace
    character (including \\n \\r \\t \\f and spaces) and will discard
    empty strings from the result.
  maxsplit
    Maximum number of splits.
    -1 (the default value) means no limit.

Splitting starts at the front of the string and works to the end.

Note, str.split() is mainly useful for data that has been intentionally
delimited.  With natural text that includes punctuation, consider using
the regular expression module."),
  ("str", "splitlines",
"Return a list of the lines in the string, breaking at line boundaries.

Line breaks are not included in the resulting list unless keepends is given and
true."),
  ("str", "startswith",
"S.startswith(prefix[, start[, end]]) -> bool

Return True if S starts with the specified prefix, False otherwise.
With optional start, test S beginning at that position.
With optional end, stop comparing S at that position.
prefix can also be a tuple of strings to try."),
  ("str", "strip",
"Return a copy of the string with leading and trailing whitespace removed.

If chars is given and not None, remove characters in chars instead."),
  ("str", "swapcase",
"Convert uppercase characters to lowercase and lowercase characters to uppercase."),
  ("str", "title",
"Return a version of the string where each word is titlecased.

More specifically, words start with uppercased characters and all remaining
cased characters have lower case."),
  ("str", "translate",
"Replace each character in the string using the given translation table.

  table
    Translation table, which must be a mapping of Unicode ordinals to
    Unicode ordinals, strings, or None.

The table must implement lookup/indexing via __getitem__, for instance a
dictionary or list.  If this operation raises LookupError, the character is
left untouched.  Characters mapped to None are deleted."),
  ("str", "upper",
"Return a copy of the string converted to uppercase."),
  ("str", "zfill",
"Pad a numeric string with zeros on the left, to fill a field of the given width.

The string is never truncated."),
  ("super", "__self__",
"the instance invoking super(); may be None"),
  ("super", "__self_class__",
"the type of the instance invoking super(); may be None"),
  ("super", "__thisclass__",
"the class invoking super()"),
  ("tuple", "__class_getitem__",
"See PEP 585"),
  ("tuple", "count",
"Return number of occurrences of value."),
  ("tuple", "index",
"Return first index of value.

Raises ValueError if the value is not present."),
  ("type", "__dir__",
"Specialized __dir__ implementation for types."),
  ("type", "__instancecheck__",
"Check if an object is an instance."),
  ("type", "__prepare__",
"__prepare__() -> dict
used to create the namespace for the class statement"),
  ("type", "__sizeof__",
"Return memory consumption of the type object."),
  ("type", "__subclasscheck__",
"Check if a class is a subclass."),
  ("type", "__subclasses__",
"Return a list of immediate subclasses."),
  ("type", "mro",
"Return a type's method resolution order."),
  ("zip", "__reduce__",
"Return state information for pickling."),
  ("zip", "__setstate__",
"Set state information for unpickling."),
  ("BaseExceptionGroup", "__class_getitem__",
"See PEP 585"),
  ("BaseExceptionGroup", "exceptions",
"nested exceptions"),
  ("BaseExceptionGroup", "message",
"exception message"),
  ("SystemExit", "code",
"exception code"),
  ("abstractclassmethod", "__weakref__",
"list of weak references to the object"),
  ("abstractproperty", "__dict__",
"dictionary for instance variables"),
  ("abstractproperty", "__weakref__",
"list of weak references to the object"),
  ("abstractstaticmethod", "__weakref__",
"list of weak references to the object"),
  ("AttributeError", "name",
"attribute name"),
  ("AttributeError", "obj",
"object"),
  ("ImportError", "msg",
"exception message"),
  ("ImportError", "name",
"module name"),
  ("ImportError", "path",
"module path"),
  ("NameError", "name",
"name"),
  ("OSError", "errno",
"POSIX exception code"),
  ("OSError", "filename",
"exception filename"),
  ("OSError", "filename2",
"second exception filename"),
  ("OSError", "strerror",
"exception strerror"),
  ("StopIteration", "value",
"generator return value"),
  ("SyntaxError", "end_lineno",
"exception end lineno"),
  ("SyntaxError", "end_offset",
"exception end offset"),
  ("SyntaxError", "filename",
"exception filename"),
  ("SyntaxError", "lineno",
"exception lineno"),
  ("SyntaxError", "msg",
"exception msg"),
  ("SyntaxError", "offset",
"exception offset"),
  ("SyntaxError", "print_file_and_line",
"exception print_file_and_line"),
  ("SyntaxError", "text",
"exception text"),
  ("ExceptionGroup", "__weakref__",
"list of weak references to the object"),
  ("UnicodeDecodeError", "encoding",
"exception encoding"),
  ("UnicodeDecodeError", "end",
"exception end"),
  ("UnicodeDecodeError", "object",
"exception object"),
  ("UnicodeDecodeError", "reason",
"exception reason"),
  ("UnicodeDecodeError", "start",
"exception start"),
  ("UnicodeEncodeError", "encoding",
"exception encoding"),
  ("UnicodeEncodeError", "end",
"exception end"),
  ("UnicodeEncodeError", "object",
"exception object"),
  ("UnicodeEncodeError", "reason",
"exception reason"),
  ("UnicodeEncodeError", "start",
"exception start"),
  ("UnicodeTranslateError", "encoding",
"exception encoding"),
  ("UnicodeTranslateError", "end",
"exception end"),
  ("UnicodeTranslateError", "object",
"exception object"),
  ("UnicodeTranslateError", "reason",
"exception reason"),
  ("UnicodeTranslateError", "start",
"exception start")]

end TestSkeleton.Builtin

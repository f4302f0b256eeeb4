import TestSkeleton.Text.Basic

set_option autoImplicit false

/-! # Attributes of built-in classes

The built-in classes with their bases, and the names of the attributes that each has of its own, by
the kind of the attribute.
-/

namespace TestSkeleton.Builtin

/-- The built-in classes whose own attributes are `__init__`, which is an operator, and `__new__`,
which is a function: each with its bases. -/
def plainRows : List (String × String) := [
  ("Exception", "BaseException"), ("GeneratorExit", "BaseException"),
  ("KeyboardInterrupt", "BaseException"), ("ArithmeticError", "Exception"),
  ("AssertionError", "Exception"), ("BufferError", "Exception"), ("EOFError", "Exception"),
  ("LookupError", "Exception"), ("MemoryError", "Exception"), ("ReferenceError", "Exception"),
  ("RuntimeError", "Exception"), ("StopAsyncIteration", "Exception"),
  ("SystemError", "Exception"), ("TypeError", "Exception"), ("ValueError", "Exception"),
  ("Warning", "Exception"), ("BytesWarning", "Warning"), ("DeprecationWarning", "Warning"),
  ("EncodingWarning", "Warning"), ("FloatingPointError", "ArithmeticError"),
  ("FutureWarning", "Warning"), ("ImportWarning", "Warning"), ("IndexError", "LookupError"),
  ("NotImplementedError", "RuntimeError"), ("OverflowError", "ArithmeticError"),
  ("PendingDeprecationWarning", "Warning"), ("RecursionError", "RuntimeError"),
  ("ResourceWarning", "Warning"), ("RuntimeWarning", "Warning"), ("SyntaxWarning", "Warning"),
  ("UnicodeError", "ValueError"), ("UnicodeWarning", "Warning"), ("UserWarning", "Warning"),
  ("ZeroDivisionError", "ArithmeticError")]

/-- The other built-in classes: each with its bases and with its own attributes, where the name of a
kind stands before the names of the attributes of that kind. -/
def rows : List (String × String × String) := [
  ("object", "",
    "operator: __delattr__ __eq__ __ge__ __getattribute__ __gt__ __hash__ __init__ __le__ __lt__
    __ne__ __repr__ __setattr__ __str__
    method: __dir__ __format__ __getstate__ __reduce__ __reduce_ex__ __sizeof__
    classMethod: __init_subclass__ __subclasshook__
    getter: __class__
    function: __new__"),
  ("BaseException", "object",
    "operator: __delattr__ __getattribute__ __init__ __repr__ __setattr__ __str__
    method: __reduce__ __setstate__ add_note with_traceback
    getter: __cause__ __context__ __dict__ __traceback__ args
    member: __suppress_context__
    function: __new__"),
  ("NoneType", "object",
    "operator: __bool__ __repr__
    function: __new__"),
  ("NotImplementedType", "object",
    "operator: __bool__ __repr__
    method: __reduce__
    function: __new__"),
  ("builtin_function_or_method", "object",
    "operator: __call__ __eq__ __ge__ __getattribute__ __gt__ __hash__ __le__ __lt__ __ne__
    __repr__
    method: __reduce__
    getter: __doc__ __name__ __qualname__ __self__ __text_signature__
    member: __module__"),
  ("bytearray", "object",
    "operator: __add__ __contains__ __delitem__ __eq__ __ge__ __getattribute__ __getitem__
    __gt__ __iadd__ __imul__ __init__ __iter__ __le__ __len__ __lt__ __mod__ __mul__ __ne__
    __repr__ __rmod__ __rmul__ __setitem__ __str__
    method: __alloc__ __reduce__ __reduce_ex__ __sizeof__ append capitalize center clear copy
    count decode endswith expandtabs extend find hex index insert isalnum isalpha isascii
    isdigit islower isspace istitle isupper join ljust lower lstrip partition pop remove
    removeprefix removesuffix replace reverse rfind rindex rjust rpartition rsplit rstrip split
    splitlines startswith strip swapcase title translate upper zfill
    classMethod: fromhex
    function: __new__ maketrans
    absent: __hash__"),
  ("bytes", "object",
    "operator: __add__ __contains__ __eq__ __ge__ __getattribute__ __getitem__ __gt__ __hash__
    __iter__ __le__ __len__ __lt__ __mod__ __mul__ __ne__ __repr__ __rmod__ __rmul__ __str__
    method: __bytes__ __getnewargs__ capitalize center count decode endswith expandtabs find
    hex index isalnum isalpha isascii isdigit islower isspace istitle isupper join ljust lower
    lstrip partition removeprefix removesuffix replace rfind rindex rjust rpartition rsplit
    rstrip split splitlines startswith strip swapcase title translate upper zfill
    classMethod: fromhex
    function: __new__ maketrans"),
  ("classmethod", "object",
    "operator: __get__ __init__ __repr__
    getter: __dict__ __isabstractmethod__
    member: __func__ __wrapped__
    function: __new__"),
  ("classmethod_descriptor", "object",
    "operator: __call__ __get__ __getattribute__ __repr__
    getter: __doc__ __qualname__ __text_signature__
    member: __name__ __objclass__"),
  ("code", "object",
    "operator: __eq__ __ge__ __getattribute__ __gt__ __hash__ __le__ __lt__ __ne__ __repr__
    method: __sizeof__ _varname_from_oparg co_lines co_positions replace
    getter: _co_code_adaptive co_cellvars co_code co_freevars co_lnotab co_varnames
    member: co_argcount co_consts co_exceptiontable co_filename co_firstlineno co_flags
    co_kwonlyargcount co_linetable co_name co_names co_nlocals co_posonlyargcount co_qualname
    co_stacksize
    function: __new__"),
  ("complex", "object",
    "operator: __abs__ __add__ __bool__ __eq__ __ge__ __getattribute__ __gt__ __hash__ __le__
    __lt__ __mul__ __ne__ __neg__ __pos__ __pow__ __radd__ __repr__ __rmul__ __rpow__ __rsub__
    __rtruediv__ __sub__ __truediv__
    method: __complex__ __format__ __getnewargs__ conjugate
    member: imag real
    function: __new__"),
  ("dict", "object",
    "operator: __delitem__ __eq__ __ge__ __getattribute__ __gt__ __init__ __ior__ __iter__
    __le__ __len__ __lt__ __ne__ __or__ __repr__ __ror__ __setitem__
    method: __contains__ __getitem__ __reversed__ __sizeof__ clear copy get items keys pop
    popitem setdefault update values
    classMethod: __class_getitem__ fromkeys
    function: __new__
    absent: __hash__"),
  ("ellipsis", "object",
    "operator: __getattribute__ __repr__
    method: __reduce__
    function: __new__"),
  ("enumerate", "object",
    "operator: __getattribute__ __iter__ __next__
    method: __reduce__
    classMethod: __class_getitem__
    function: __new__"),
  ("filter", "object",
    "operator: __getattribute__ __iter__ __next__
    method: __reduce__
    function: __new__"),
  ("float", "object",
    "operator: __abs__ __add__ __bool__ __divmod__ __eq__ __float__ __floordiv__ __ge__
    __getattribute__ __gt__ __hash__ __int__ __le__ __lt__ __mod__ __mul__ __ne__ __neg__
    __pos__ __pow__ __radd__ __rdivmod__ __repr__ __rfloordiv__ __rmod__ __rmul__ __rpow__
    __rsub__ __rtruediv__ __sub__ __truediv__
    method: __ceil__ __floor__ __format__ __getnewargs__ __round__ __trunc__ as_integer_ratio
    conjugate hex is_integer
    classMethod: __getformat__ fromhex
    getter: imag real
    function: __new__"),
  ("frozenset", "object",
    "operator: __and__ __eq__ __ge__ __getattribute__ __gt__ __hash__ __iter__ __le__ __len__
    __lt__ __ne__ __or__ __rand__ __repr__ __ror__ __rsub__ __rxor__ __sub__ __xor__
    method: __contains__ __reduce__ __sizeof__ copy difference intersection isdisjoint issubset
    issuperset symmetric_difference union
    classMethod: __class_getitem__
    function: __new__"),
  ("function", "object",
    "operator: __call__ __get__ __repr__
    getter: __annotations__ __code__ __defaults__ __dict__ __kwdefaults__ __name__ __qualname__
    member: __builtins__ __closure__ __doc__ __globals__ __module__
    function: __new__"),
  ("getset_descriptor", "object",
    "operator: __delete__ __get__ __getattribute__ __repr__ __set__
    getter: __doc__ __qualname__
    member: __name__ __objclass__"),
  ("int", "object",
    "operator: __abs__ __add__ __and__ __bool__ __divmod__ __eq__ __float__ __floordiv__ __ge__
    __getattribute__ __gt__ __hash__ __index__ __int__ __invert__ __le__ __lshift__ __lt__
    __mod__ __mul__ __ne__ __neg__ __or__ __pos__ __pow__ __radd__ __rand__ __rdivmod__
    __repr__ __rfloordiv__ __rlshift__ __rmod__ __rmul__ __ror__ __rpow__ __rrshift__
    __rshift__ __rsub__ __rtruediv__ __rxor__ __sub__ __truediv__ __xor__
    method: __ceil__ __floor__ __format__ __getnewargs__ __round__ __sizeof__ __trunc__
    as_integer_ratio bit_count bit_length conjugate to_bytes
    classMethod: from_bytes
    getter: denominator imag numerator real
    function: __new__"),
  ("list", "object",
    "operator: __add__ __contains__ __delitem__ __eq__ __ge__ __getattribute__ __gt__ __iadd__
    __imul__ __init__ __iter__ __le__ __len__ __lt__ __mul__ __ne__ __repr__ __rmul__
    __setitem__
    method: __getitem__ __reversed__ __sizeof__ append clear copy count extend index insert pop
    remove reverse sort
    classMethod: __class_getitem__
    function: __new__
    absent: __hash__"),
  ("map", "object",
    "operator: __getattribute__ __iter__ __next__
    method: __reduce__
    function: __new__"),
  ("mappingproxy", "object",
    "operator: __contains__ __eq__ __ge__ __getattribute__ __getitem__ __gt__ __ior__ __iter__
    __le__ __len__ __lt__ __ne__ __or__ __repr__ __ror__ __str__
    method: __reversed__ copy get items keys values
    classMethod: __class_getitem__
    function: __new__
    absent: __hash__"),
  ("member_descriptor", "object",
    "operator: __delete__ __get__ __getattribute__ __repr__ __set__
    method: __reduce__
    getter: __doc__ __qualname__
    member: __name__ __objclass__"),
  ("memoryview", "object",
    "operator: __delitem__ __eq__ __ge__ __getattribute__ __getitem__ __gt__ __hash__ __iter__
    __le__ __len__ __lt__ __ne__ __repr__ __setitem__
    method: __enter__ __exit__ cast hex release tobytes tolist toreadonly
    getter: c_contiguous contiguous f_contiguous format itemsize nbytes ndim obj readonly shape
    strides suboffsets
    function: __new__"),
  ("method", "object",
    "operator: __call__ __delattr__ __eq__ __ge__ __getattribute__ __gt__ __hash__ __le__ __lt__
    __ne__ __repr__ __setattr__
    method: __reduce__
    getter: __doc__
    member: __func__ __self__
    function: __new__"),
  ("method-wrapper", "object",
    "operator: __call__ __eq__ __ge__ __getattribute__ __gt__ __hash__ __le__ __lt__ __ne__
    __repr__
    method: __reduce__
    getter: __doc__ __name__ __objclass__ __qualname__ __text_signature__
    member: __self__"),
  ("method_descriptor", "object",
    "operator: __call__ __get__ __getattribute__ __repr__
    method: __reduce__
    getter: __doc__ __qualname__ __text_signature__
    member: __name__ __objclass__"),
  ("module", "object",
    "operator: __delattr__ __getattribute__ __init__ __repr__ __setattr__
    method: __dir__
    getter: __annotations__
    member: __dict__
    function: __new__"),
  ("property", "object",
    "operator: __delete__ __get__ __getattribute__ __init__ __set__
    method: __set_name__ deleter getter setter
    getter: __isabstractmethod__
    member: __doc__ fdel fget fset
    function: __new__"),
  ("range", "object",
    "operator: __bool__ __contains__ __eq__ __ge__ __getattribute__ __getitem__ __gt__ __hash__
    __iter__ __le__ __len__ __lt__ __ne__ __repr__
    method: __reduce__ __reversed__ count index
    member: start step stop
    function: __new__"),
  ("reversed", "object",
    "operator: __getattribute__ __iter__ __next__
    method: __length_hint__ __reduce__ __setstate__
    function: __new__"),
  ("set", "object",
    "operator: __and__ __eq__ __ge__ __getattribute__ __gt__ __iand__ __init__ __ior__ __isub__
    __iter__ __ixor__ __le__ __len__ __lt__ __ne__ __or__ __rand__ __repr__ __ror__ __rsub__
    __rxor__ __sub__ __xor__
    method: __contains__ __reduce__ __sizeof__ add clear copy difference difference_update
    discard intersection intersection_update isdisjoint issubset issuperset pop remove
    symmetric_difference symmetric_difference_update union update
    classMethod: __class_getitem__
    function: __new__
    absent: __hash__"),
  ("slice", "object",
    "operator: __eq__ __ge__ __getattribute__ __gt__ __le__ __lt__ __ne__ __repr__
    method: __reduce__ indices
    member: start step stop
    function: __new__
    absent: __hash__"),
  ("staticmethod", "object",
    "operator: __call__ __get__ __init__ __repr__
    getter: __dict__ __isabstractmethod__
    member: __func__ __wrapped__
    function: __new__"),
  ("str", "object",
    "operator: __add__ __contains__ __eq__ __ge__ __getattribute__ __getitem__ __gt__ __hash__
    __iter__ __le__ __len__ __lt__ __mod__ __mul__ __ne__ __repr__ __rmod__ __rmul__ __str__
    method: __format__ __getnewargs__ __sizeof__ capitalize casefold center count encode
    endswith expandtabs find format format_map index isalnum isalpha isascii isdecimal isdigit
    isidentifier islower isnumeric isprintable isspace istitle isupper join ljust lower lstrip
    partition removeprefix removesuffix replace rfind rindex rjust rpartition rsplit rstrip
    split splitlines startswith strip swapcase title translate upper zfill
    function: __new__ maketrans"),
  ("super", "object",
    "operator: __get__ __getattribute__ __init__ __repr__
    member: __self__ __self_class__ __thisclass__
    function: __new__"),
  ("tuple", "object",
    "operator: __add__ __contains__ __eq__ __ge__ __getattribute__ __getitem__ __gt__ __hash__
    __iter__ __le__ __len__ __lt__ __mul__ __ne__ __repr__ __rmul__
    method: __getnewargs__ count index
    classMethod: __class_getitem__
    function: __new__"),
  ("type", "object",
    "operator: __call__ __delattr__ __getattribute__ __init__ __or__ __repr__ __ror__
    __setattr__
    method: __dir__ __instancecheck__ __sizeof__ __subclasscheck__ __subclasses__ mro
    classMethod: __prepare__
    getter: __abstractmethods__ __annotations__ __bases__ __dict__ __doc__ __module__ __name__
    __qualname__ __text_signature__
    member: __base__ __basicsize__ __dictoffset__ __flags__ __itemsize__ __mro__
    __weakrefoffset__
    function: __new__"),
  ("wrapper_descriptor", "object",
    "operator: __call__ __get__ __getattribute__ __repr__
    method: __reduce__
    getter: __doc__ __qualname__ __text_signature__
    member: __name__ __objclass__"),
  ("zip", "object",
    "operator: __getattribute__ __iter__ __next__
    method: __reduce__ __setstate__
    function: __new__"),
  ("ABC", "object",
    ""),
  ("BaseExceptionGroup", "BaseException",
    "operator: __init__ __str__
    method: derive split subgroup
    classMethod: __class_getitem__
    member: exceptions message
    function: __new__"),
  ("SystemExit", "BaseException",
    "operator: __init__
    member: code"),
  ("bool", "int",
    "operator: __and__ __or__ __rand__ __repr__ __ror__ __rxor__ __xor__
    function: __new__"),
  ("ABCMeta", "type",
    ""),
  ("abstractclassmethod", "classmethod",
    "getter: __weakref__"),
  ("abstractproperty", "property",
    "getter: __dict__ __weakref__"),
  ("abstractstaticmethod", "staticmethod",
    "getter: __weakref__"),
  ("AttributeError", "Exception",
    "operator: __init__ __str__
    member: name obj"),
  ("ImportError", "Exception",
    "operator: __init__ __str__
    method: __reduce__
    member: msg name path"),
  ("NameError", "Exception",
    "operator: __init__ __str__
    member: name"),
  ("OSError", "Exception",
    "operator: __init__ __str__
    method: __reduce__
    getter: characters_written
    member: errno filename filename2 strerror
    function: __new__"),
  ("StopIteration", "Exception",
    "operator: __init__
    member: value"),
  ("SyntaxError", "Exception",
    "operator: __init__ __str__
    member: end_lineno end_offset filename lineno msg offset print_file_and_line text"),
  ("BlockingIOError", "OSError",
    "operator: __init__"),
  ("ChildProcessError", "OSError",
    "operator: __init__"),
  ("ConnectionError", "OSError",
    "operator: __init__"),
  ("ExceptionGroup", "BaseExceptionGroup Exception",
    "getter: __weakref__"),
  ("FileExistsError", "OSError",
    "operator: __init__"),
  ("FileNotFoundError", "OSError",
    "operator: __init__"),
  ("IndentationError", "SyntaxError",
    "operator: __init__"),
  ("InterruptedError", "OSError",
    "operator: __init__"),
  ("IsADirectoryError", "OSError",
    "operator: __init__"),
  ("KeyError", "LookupError",
    "operator: __init__ __str__"),
  ("ModuleNotFoundError", "ImportError",
    "operator: __init__"),
  ("NotADirectoryError", "OSError",
    "operator: __init__"),
  ("PermissionError", "OSError",
    "operator: __init__"),
  ("ProcessLookupError", "OSError",
    "operator: __init__"),
  ("TimeoutError", "OSError",
    "operator: __init__"),
  ("UnboundLocalError", "NameError",
    "operator: __init__"),
  ("BrokenPipeError", "ConnectionError",
    "operator: __init__"),
  ("ConnectionAbortedError", "ConnectionError",
    "operator: __init__"),
  ("ConnectionRefusedError", "ConnectionError",
    "operator: __init__"),
  ("ConnectionResetError", "ConnectionError",
    "operator: __init__"),
  ("TabError", "IndentationError",
    "operator: __init__"),
  ("UnicodeDecodeError", "UnicodeError",
    "operator: __init__ __str__
    member: encoding end object reason start
    function: __new__"),
  ("UnicodeEncodeError", "UnicodeError",
    "operator: __init__ __str__
    member: encoding end object reason start
    function: __new__"),
  ("UnicodeTranslateError", "UnicodeError",
    "operator: __init__ __str__
    member: encoding end object reason start
    function: __new__")]

end TestSkeleton.Builtin

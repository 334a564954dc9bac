import SaltConventions.Error
import SaltConventions.Text.Letter
import SaltConventions.Text.Pieces

/-!
# Standard library modules

The top-level modules of the standard library: the usual ones, or those found next to `os.py` in a
directory. Modules built into the interpreter always belong to it, modules of another platform
never.
-/

namespace SaltConventions

/-- The top-level modules of the standard library, without repetition. -/
structure StandardLibrary where
  names : List String
  deriving DecidableEq, Repr, Inhabited

namespace StandardLibrary

/-- Modules that exist on another platform only. -/
def foreignModules : List String :=
  ["msilib", "msvcrt", "winreg", "winsound", "ntpath"]

/-- Modules built into the interpreter. -/
def builtinModules : List String :=
  ["__builtin__", "exceptions", "builtins", "sys", "_imp", "_thread", "_warnings", "_weakref",
   "_io", "marshal", "posix", "nt", "gc", "itertools", "time", "errno", "atexit", "math", "_abc",
   "_codecs", "_collections", "_functools", "_signal", "_sre", "_stat", "_string", "_symtable",
   "_tracemalloc", "zipimport"]

/-- The top-level modules of recent versions, and those removed from them that older code still
imports. -/
def usualModules : List String :=
  ["__future__", "_thread", "abc", "aifc", "argparse", "array", "ast", "asynchat", "asyncio",
   "asyncore", "atexit", "audioop", "base64", "bdb", "binascii", "binhex", "bisect", "builtins",
   "bz2", "calendar", "cgi", "cgitb", "chunk", "cmath", "cmd", "code", "codecs", "codeop",
   "collections", "colorsys", "compileall", "concurrent", "configparser", "contextlib",
   "contextvars", "copy", "copyreg", "cProfile", "crypt", "csv", "ctypes", "curses",
   "dataclasses", "datetime", "dbm", "decimal", "difflib", "dis", "distutils", "doctest",
   "email", "encodings", "ensurepip", "enum", "errno", "faulthandler", "fcntl", "filecmp",
   "fileinput", "fnmatch", "fractions", "ftplib", "functools", "gc", "genericpath", "getopt",
   "getpass", "gettext", "glob", "graphlib", "grp", "gzip", "hashlib", "heapq", "hmac", "html",
   "http", "idlelib", "imaplib", "imghdr", "imp", "importlib", "inspect", "io", "ipaddress",
   "itertools", "json", "keyword", "lib2to3", "linecache", "locale", "logging", "lzma",
   "mailbox", "mailcap", "marshal", "math", "mimetypes", "mmap", "modulefinder", "msilib",
   "msvcrt", "multiprocessing", "netrc", "nis", "nntplib", "ntpath", "numbers", "opcode",
   "operator", "optparse", "os", "ossaudiodev", "pathlib", "pdb", "pickle", "pickletools",
   "pipes", "pkgutil", "platform", "plistlib", "poplib", "posix", "posixpath", "pprint",
   "profile", "pstats", "pty", "pwd", "py_compile", "pyclbr", "pydoc", "pydoc_data", "pyexpat",
   "queue", "quopri", "random", "re", "readline", "reprlib", "resource", "rlcompleter", "runpy",
   "sched", "secrets", "select", "selectors", "shelve", "shlex", "shutil", "signal", "site",
   "smtpd", "smtplib", "sndhdr", "socket", "socketserver", "spwd", "sqlite3", "sre_compile",
   "sre_constants", "sre_parse", "ssl", "stat", "statistics", "string", "stringprep", "struct",
   "subprocess", "sunau", "symtable", "sys", "sysconfig", "syslog", "tabnanny", "tarfile",
   "telnetlib", "tempfile", "termios", "textwrap", "threading", "time", "timeit", "tkinter",
   "token", "tokenize", "tomllib", "trace", "traceback", "tracemalloc", "tty", "turtle",
   "turtledemo", "types", "typing", "unicodedata", "unittest", "urllib", "uu", "uuid", "venv",
   "warnings", "wave", "weakref", "webbrowser", "winreg", "winsound", "wsgiref", "xdrlib", "xml",
   "xmlrpc", "zipapp", "zipfile", "zipimport", "zlib", "zoneinfo"]

def ofNames (names : List String) : StandardLibrary :=
  ⟨((names ++ builtinModules).filter (!foreignModules.contains ·)).eraseDups⟩

def usual : StandardLibrary :=
  ofNames usualModules

def contains (library : StandardLibrary) (name : String) : Bool :=
  library.names.contains name

/-- The part of a file name before its first dot, if the part after it is that of a module: `py`, or
an ending in `so` or `pyd`. -/
def moduleStem? (fileName : String) : Option String :=
  match fileName.toList.dropWhile (· != '.') with
  | [] => none
  | _ :: extension =>
    if extension = ['p', 'y'] ∨ Text.endsWith ['s', 'o'] extension
        ∨ Text.endsWith ['p', 'y', 'd'] extension then
      some (String.ofList (fileName.toList.takeWhile (· != '.')))
    else none

/-- The module that an entry of a directory holds: a package under its own name, anything else under
its stem if that is an identifier. -/
def moduleHeldBy? (tree : FileTree) (directory : Path) (name : String) : Option String :=
  let path := directory.join ⟨name⟩
  if tree.isDirectory path then
    if tree.isFile (path.join ⟨"__init__.py"⟩) then some name else none
  else (moduleStem? name).filter fun stem => Text.isIdentifier stem.toList

/-- The modules in the directory that a path names. -/
def modulesAt (tree : FileTree) (path : Path) : Except LintError (List String) :=
  match tree.locate path with
  | .ok directory => .ok ((tree.children directory).filterMap (moduleHeldBy? tree path))
  | .error cause => .error (.unreadable path cause)

/-- The library in a directory that holds `os.py`, together with its compiled modules. An empty path
names no directory, even where a file can be found next to it. -/
def discover (tree : FileTree) (directory : Path) : Except LintError StandardLibrary := do
  let anchor := directory.join ⟨"os.py"⟩
  let compiled := directory.join ⟨"lib-dynload"⟩
  if !tree.isFile anchor then .error (.unreadable anchor .noAnchor)
  else
    let found ← modulesAt tree directory
    let more ← if tree.isDirectory compiled then modulesAt tree compiled else .ok []
    return ofNames (found ++ more)

end StandardLibrary

end SaltConventions

import DocPreview.Highlight.Language.C

/-!
# The grammars of C++, Objective-C and Objective-C++

Comments, numbers, texts and lines for the preprocessor are read as in C. Declarations know
namespaces, classes and templates besides. What is no addition of Objective-C is read as in C or
C++. Words after an at sign are read in the places where they can stand, so an interface is read as
one only if its line has no semicolon.
-/

namespace DocPreview.Highlight.Language

open Grammar

/-! ### C++ -/

namespace CPlusPlus

/-- A name. -/
def name : String := C.name

/-- A name with the names of what it belongs to. -/
def path : String :=
  r"(?:::\s*)?(?:\b[[:alpha:]_]\w*\b\s*::\s*)*(?:template\s+)?\b[[:alpha:]_]\w*\b"

/-- Arguments between angle brackets, with others in them. -/
def generic : String :=
  let plain := r"[^(){}&;*^%=<>-]"
  let inner := "(?:<(?:" ++ plain ++ "|<(?:" ++ plain ++ "|<" ++ plain ++ r"*>)*>)*>)"
  "<(?:" ++ plain ++ "|" ++ inner ++ ")+>"

/-- The word `operator` with the operator that it is for. -/
def operatorName : String :=
  r"\boperator\s*(?:[-+*/%^&|=!<>]=|<<=?|>>=?|&&|\|\||\+\+|--|->\*?|\(\)|\[\]|\x22\x22\s*" ++
    r"[[:alpha:]_]\w*|[-+*/%^&|~!=<>,])"

/-- The words of statements. -/
def control : String :=
  "break|case|catch|continue|default|do|else|for|goto|if|_Pragma|return|switch|throw|try|while"

/-- The words that stand for operators. -/
def operatorWords : String :=
  "and|and_eq|bitand|bitor|compl|not|not_eq|or|or_eq|xor|xor_eq|noexcept"

/-- The words for changes of types. -/
def casts : String := "const_cast|dynamic_cast|reinterpret_cast|static_cast"

/-- The words before a declaration. -/
def modifiers : String :=
  "static|export|extern|friend|explicit|virtual|register|thread_local|const|constexpr|mutable|" ++
    "typename|volatile|inline|restrict|__restrict__|__restrict|override|final|noexcept"

/-- The types of the language. -/
def basicTypes : String :=
  "asm|__asm__|auto|bool|_Bool|char|_Complex|double|float|_Imaginary|int|long|short|signed|" ++
    "unsigned|void|wchar_t|char16_t|char32_t"

/-- The contexts of expressions. -/
def expressions : Grammar := [
  ("types", context [
    mark ("\\b(?:" ++ basicTypes ++ ")\\b") "storage.type",
    mark r"\b(?:char16_t|char32_t|wchar_t|nullptr_t)\b" "storage.type",
    push r"\b(decltype)\b\s*(\()" "" ["group"] |>.parts [(1, "storage.type")],
    mark r"\b(?:struct|union|enum|class)\b" "storage.type",
    use "library types"]),
  ("modifiers", context [
    push r"\b(__attribute__|__declspec)\s*(\()" "" ["group"] |>.parts [(1, "storage.modifier")],
    mark ("\\b(?:" ++ modifiers ++ ")\\b") "storage.modifier"]),
  ("extra early", context []),
  ("extra late", context []),
  ("early expressions", context [
    use "preprocessor",
    use "comments",
    use "extra early",
    push r"\b(?:default|case)\b" "keyword.control" ["case"],
    push r"\btypedef\b" "storage.type" ["type definition"],
    push ("\\b(?:" ++ casts ++ r")\b\s*") "keyword.operator.word.cast" ["cast"],
    push r"\b(alignas|alignof|decltype|sizeof|static_assert|typeid)\b\s*(\()" "" ["group"]
      |>.parts [(1, "keyword.operator.word")],
    push r"\busing\b" "keyword.control" ["alias"],
    mark ("\\b(?:" ++ control ++ ")\\b") "keyword.control",
    mark r"\bdelete\b(?:\s*\[\])?|\bnew\b(?!\])" "keyword.control",
    mark ("\\b(?:" ++ operatorWords ++ ")\\b") "keyword.operator.word",
    mark r"\b(?:sizeof|alignof|typeid|static_assert|alignas)\b" "keyword.operator.word",
    push r"\b((?:u8|u|U|L)?R)(\x22([^()\\ ]{0,16})\()" "" ["raw text"] |>.parts [
      (1, "storage.type.string"), (2, "punctuation.definition.string.begin")],
    use "numbers",
    mark r"<=|<<(?!=)" "keyword.operator.comparison"]),
  ("raw text", context [pop r"\)\3\x22" "punctuation.definition.string.end"]
    |>.whole "string.quoted.double" |>.bare),
  ("cast", context [
    pop r">" "punctuation.section.generic.end",
    push r"<" "punctuation.section.generic.begin" ["cast type"]]),
  ("cast type", context [
    pop r"(?=>)" "",
    use "generic contents"]),
  ("late expressions", context [
    use "extra late",
    mark r"\boperator\b" "keyword.control",
    use "modifiers",
    mark r"::" "punctuation.accessor",
    use "operators",
    use "types",
    use "strings",
    push r"\(" "punctuation.section.group.begin" ["group"],
    push r"\[" "punctuation.section.brackets.begin" ["brackets"],
    push r"\x7b" "punctuation.section.block.begin" ["block"],
    mark r"\bthis\b" "variable.language",
    mark r"\b(?:f|m)[[:upper:]]\w*\b" "variable.other.readwrite.member",
    mark r"\bm_\w+\b" "variable.other.readwrite.member",
    mark r"\bnullptr\b" "constant.language",
    use "constants",
    mark name "",
    mark r"[\)\x7d]" "invalid.illegal.stray-bracket-end"]),
  ("expressions", context [
    use "early expressions",
    use "calls",
    use "generic types",
    use "late expressions"]),
  ("calls", context [
    push ("(?=(?!(?:" ++ modifiers ++ ")\\b)" ++ path ++ r"\s*\()") "" ["call"],
    push ("(?=(?!template)" ++ path ++ r"\s*" ++ generic ++ r"\s*\()") "" ["call"]]),
  ("generic types", context [
    push ("(?=(?!template)" ++ path ++ r"\s*" ++ generic ++ ")") "" ["generic type"]]),
  ("call", context [
    set r"\(" "punctuation.section.group.begin" ["group"],
    push r"<" "punctuation.section.generic.begin" ["generic"],
    mark r"\btemplate\b" "storage.type.template",
    mark ("\\b" ++ C.libraryFunctions ++ r"\b(?=\s*\()") "support.function",
    mark (r"(?:::\s*)?(?:" ++ name ++ r"\s*::\s*)+(?:(?=template\b)|" ++ name ++ ")|" ++
      r"(?:::\s*)?" ++ name) "variable.function",
    popElse]),
  ("generic type", context [
    use "path",
    set r"<" "punctuation.section.generic.begin" ["generic"],
    popElse]),
  ("generic", context [
    pop r">" "punctuation.section.generic.end",
    use "generic contents"]),
  ("generic contents", context [
    use "early expressions",
    push r"<" "punctuation.section.generic.begin" ["generic"],
    use "late expressions"]),
  ("angle brackets", context [push r"<(?!<)" "punctuation.section.generic.begin" ["generic"]]),
  ("path", context [
    mark (r"(?:::\s*)?" ++ name ++ r"(?:\s*::\s*" ++ name ++ r")*(?:\s*::\s*)?") "",
    mark r"::" "punctuation.accessor"]),
  ("group", context [
    pop r"\)" "punctuation.section.group.end",
    use "expressions"]),
  ("brackets", context [
    pop r"\]" "punctuation.section.brackets.end",
    use "expressions"]),
  ("block", context [
    pop r"\x7d" "punctuation.section.block.end",
    use "statements"]),
  ("statements", context [
    use "preprocessor",
    mark (r"^\s*((?!(?:default|public|private|protected)\b)[[:alpha:]_][[:alnum:]_]*)(:)(?!:)") ""
      |>.parts [(1, "entity.name.label"), (2, "punctuation.separator")],
    use "expressions"]),
  ("case", context [
    pop r"(?=[\);,])" "",
    pop r":(?!:)" "punctuation.separator",
    use "expressions"]),
  ("type definition", context [
    pop ("(" ++ name ++ r")?\s*(?=;)") "" |>.parts [(1, "entity.name.type.typedef")],
    mark (r"\b(struct)\s+" ++ name) "" |>.parts [(1, "storage.type")],
    push r"\b(decltype)\b\s*(\()" "" ["group"] |>.parts [(1, "storage.type")],
    use "early expressions",
    use "angle brackets",
    use "late expressions"])]

/-- The contexts of namespaces, aliases and templates. -/
def outlines : Grammar := [
  ("used names", context [
    pop r"(?=;)" "",
    use "comments",
    mark r"::" "punctuation.accessor",
    mark name "",
    popElse]),
  ("alias", context [
    pop ("(" ++ name ++ r")\s+(?==)") "" |>.parts [(1, "entity.name.type.using")],
    popElse]),
  ("namespace name", context [
    use "comments",
    mark r"::" "punctuation.accessor",
    mark name "entity.name.namespace",
    popElse]),
  ("namespace body", context [
    use "comments",
    set r"=" "keyword.operator.alias" ["used names"],
    set r"\x7b" "punctuation.section.block.begin" ["namespace"],
    popElse]),
  ("namespace", context [
    pop r"\x7d" "punctuation.section.block.end",
    use "global"]),
  ("template", context [
    use "comments",
    set r"<" "punctuation.section.generic.begin" ["template parameters"],
    set r"(?=\S)" "" ["instantiation"]]),
  ("template parameters", context [
    pop r">" "punctuation.section.generic.end",
    mark r"\.\.\." "keyword.operator.variadic",
    mark r"\b(?:typename|struct|union|enum|class)\b" "storage.type",
    push r"\btemplate\b" "storage.type.template" ["template"],
    use "generic contents"]),
  ("instantiation", context [
    use "comments",
    mark r"\b(?:struct|union|enum|class)\b" "storage.type",
    push r"<" "punctuation.section.generic.begin" ["generic"],
    use "modifiers",
    use "types",
    use "path",
    popElse])]

/-- The contexts of declarations. -/
def declarations : Grammar := [
  ("global", context [
    use "preprocessor",
    mark (r"^(?:\s*" ++ C.macroName ++ r")+\s*$") "meta.assumed-macro",
    push (r"^\s*(" ++ C.macroName ++ r")\s*(\()(?=[^)]*\)\s*$)") "" ["group"]
      |>.parts [(1, "variable.function.assumed-macro")],
    push r"\b(using)\s+(namespace)\b" "" ["used names"]
      |>.parts [(1, "keyword.control"), (2, "keyword.control")],
    push r"\b(?:inline\s+)?namespace\b" "storage.type.namespace"
      ["namespace body", "namespace name"],
    push r"\btemplate\b" "storage.type.template" ["global declaration", "template"],
    use "early expressions",
    push r"^\s*\bextern(?=\s+\x22C(?:\+\+)?\x22)" "storage.modifier" ["linkage"],
    push r"^\s*(?=\w|~|::)" "" ["declaration"],
    use "calls",
    use "generic types",
    use "late expressions"]),
  ("global declaration", context [
    use "comments",
    set r"(?=\btemplate\b)" "" ["nested template"],
    set r"(?=\S)" "" ["declaration"]]),
  ("nested template", context [
    set r"\btemplate\b" "storage.type.template" ["global declaration", "template"],
    popElse]),
  ("linkage", context [
    use "comments",
    use "strings",
    set r"\x7b" "punctuation.section.block.begin" ["namespace"],
    set r"(?=\S)" "" ["declaration"]]),
  ("declaration", context [
    use "comments",
    use "modifiers",
    set ("(?=(?:" ++ path ++ r"\s*::\s*)~" ++ name ++ r"\s*(?:\(|$)|~" ++ name ++ r"\s*\()") ""
      ["function head", "destructor name"],
    set (r"(?=(?:::\s*)?(?:[[:alpha:]_]\w*\s*::\s*)*([[:alpha:]_]\w*)\s*::\s*\1\s*(?:\(|$))") ""
      ["function head", "function name"],
    set r"(?=\S)" "" ["declared type"]]),
  ("declared type", context [
    use "comments",
    mark r"[*&]" "keyword.operator",
    pop ("(?=\\b(?:" ++ control ++ "|" ++ operatorWords ++ "|" ++ casts ++ "|new|delete|typedef|" ++
      "nullptr|private|protected|public|static_assert|sizeof|using|typeid|alignof|alignas|" ++
      "namespace|template|operator)\\b)") "",
    set r"(?=\s)" "" ["function or variable"],
    set (r"\b(struct|union|enum|class)\s+(?=(?![[:upper:][:digit:]_]+\b|__declspec|struct|" ++
      "union|enum|class)" ++ path ++ "(?:\\s+" ++ name ++ r"\s*\(|\s*[*&]))") ""
      ["function or variable", "type path"] |>.parts [(1, "storage.type")],
    set r"(?=\b(?:struct|union|enum|class)\b)" "" ["data structure"],
    push ("\\b(" ++ name ++ r")\s*(\()(?=[^\)]+\))") "" ["group"]
      |>.parts [(1, "variable.function")],
    use "types",
    use "angle brackets",
    use "path",
    pop r"(?=\W)" ""]),
  ("type path", context [
    use "path",
    popElse]),
  ("function or variable", context [
    use "comments",
    mark r"[*&]" "keyword.operator",
    use "modifiers",
    pop ("(?=\\b(?:" ++ control ++ "|" ++ operatorWords ++ "|" ++ casts ++ ")\\b)") "",
    use "types",
    mark r"[[:upper:][:digit:]_]+\s*$" "",
    set ("(?=(?:" ++ path ++ r"\s*(?:" ++ generic ++ r"\s*)?::\s*)?" ++ operatorName ++
      r"\s*(?:\(|$))") "" ["function head", "operator name"],
    push ("(?=" ++ path ++ r"(?:[ \t]+|[*&])(?!\s*(?:<|::|\(|$)))") "" ["type path"],
    set ("(?=" ++ path ++ r"\s*" ++ generic ++ r"(?:\s*::\s*~?" ++ path ++ r")?\s*(?:\(|$))") ""
      ["function head", "generic function name"],
    set ("(?=" ++ path ++ r"\s*(?:\(|$))") "" ["function head", "function name"],
    set ("(?=" ++ path ++ r"\s*::\s*(?:~|$))") "" ["function head", "destructor name"],
    popElse]),
  ("function name", context [
    use "path",
    popElse] |>.content "entity.name.function"),
  ("destructor name", context [
    use "path",
    mark ("~" ++ name) "",
    popElse] |>.content "entity.name.function.destructor"),
  ("operator name", context [
    mark operatorName "",
    use "path",
    push r"<" "punctuation.section.generic.begin" ["generic"],
    popElse] |>.content "entity.name.function"),
  ("generic function name", context [
    use "angle brackets",
    mark r"::" "punctuation.accessor",
    push ("(?=~?" ++ name ++ r"\()") "" ["function name before parenthesis"],
    push ("(?=" ++ name ++ r"<)") "" ["function name before parenthesis"],
    popElse]),
  ("function name before parenthesis", context [
    mark ("~?" ++ name) "",
    popElse] |>.content "entity.name.function"),
  ("function head", context [
    use "comments",
    set r"\(" "punctuation.section.group.begin" ["function end", "parameter list"],
    popElse]),
  ("parameters", context [
    set r"\(" "punctuation.section.group.begin" ["parameter list"],
    popElse]),
  ("parameter list", context [
    pop r"\)" "punctuation.section.group.end",
    mark (name ++ r"(?=\s*(?:\[|,|\)|=))(?<!\bvoid)") "variable.parameter",
    push r"=" "keyword.operator.assignment" ["default value"],
    use "early expressions",
    use "angle brackets",
    use "late expressions"]),
  ("default value", context [
    pop r"(?=[,)])" "",
    use "expressions"]),
  ("function end", context [
    use "comments",
    mark r"\bfinal\b|\boverride\b" "storage.modifier",
    use "modifiers",
    mark r"\b(?:noexcept|throw)\b" "keyword.operator.word",
    push r"\(" "punctuation.section.group.begin" ["group"],
    set r"\x7b" "punctuation.section.block.begin" ["block"],
    set r":(?!:)" "punctuation.separator.initializer-list" ["member initializers"],
    push r"->" "punctuation.separator" ["return type"],
    mark r"&&?" "keyword.operator",
    set r"=" "keyword.operator.assignment" ["function value"],
    popElse]),
  ("return type", context [
    pop r"(?=[;\x7b])" "",
    use "types",
    use "modifiers",
    use "angle brackets",
    mark r"[*&]" "keyword.operator"]),
  ("function value", context [
    mark r"\bdefault\b" "storage.modifier",
    mark r"\bdelete\b" "storage.modifier",
    mark r"\b0\b" "constant.numeric",
    popElse]),
  ("member initializers", context [
    set r"(?<![,:]|[\w])\s*\x7b" "punctuation.section.block.begin" ["block"],
    pop r"(?=;)" "",
    push (name ++ r"(?=\s*[(\x7b])") "variable.other.readwrite.member" ["member value"],
    use "expressions"]),
  ("member value", context [
    set r"\(" "punctuation.section.group.begin" ["group"],
    set r"\x7b" "punctuation.section.group.begin" ["block"],
    popElse])]

/-- The contexts of classes and enumerations. -/
def classes : Grammar := [
  ("data structure", context [
    use "comments",
    set r"\bclass\b" "storage.type" ["class body", "base classes", "class name"],
    set r"\bstruct\b" "storage.type" ["class body", "base classes", "structure name"],
    set r"\bunion\b" "storage.type" ["class body", "union name"],
    set r"\benum\b" "storage.type" ["enumeration body", "base classes", "enumeration name"],
    popElse]),
  ("name marks", context [
    use "comments",
    use "modifiers",
    mark (C.macroName ++ "(?=\\s+~?" ++ name ++ ")") ""]),
  ("class name", context [
    use "name marks",
    pop name "entity.name.class",
    popElse]),
  ("structure name", context [
    use "name marks",
    pop name "entity.name.struct",
    popElse]),
  ("union name", context [
    use "name marks",
    pop name "entity.name.union",
    popElse]),
  ("enumeration name", context [
    use "comments",
    mark r"\b(?:class|struct)\b" "storage.type",
    pop name "entity.name.enum",
    popElse]),
  ("base classes", context [
    use "comments",
    mark r"\bfinal\b" "storage.modifier",
    use "angle brackets",
    set r":" "punctuation.separator" ["base class list"],
    popElse]),
  ("base class list", context [
    pop r"(?=\x7b)" "",
    pop r"(?=;)" "",
    use "comments",
    mark r"\b(?:virtual|public|private|protected)\b" "storage.modifier",
    push ("(?=" ++ path ++ ")") "" ["base class"],
    use "generic contents"]),
  ("base class", context [
    use "path",
    popNow] |>.content "entity.other.inherited-class"),
  ("class body", context [
    use "comments",
    use "angle brackets",
    set r"\x7b" "punctuation.section.block.begin" ["members"],
    popElse]),
  ("members", context [
    pop r"\x7d" "punctuation.section.block.end",
    use "preprocessor",
    use "comments",
    mark r"\b(public|private|protected)\s*(:)(?!:)" ""
      |>.parts [(1, "storage.modifier"), (2, "punctuation.section.class")],
    push r"\btypedef\b" "storage.type" ["type definition"],
    push r"\busing\b" "keyword.control" ["alias"],
    push r"\btemplate\b" "storage.type.template" ["template"],
    mark ("\\b(?:" ++ modifiers ++ ")\\b") "storage.modifier",
    push r"(~[[:alpha:]_]\w*)(?=\s*\()" "entity.name.function.destructor"
      ["function end", "parameters"],
    push r"(?<![\w.>])(?<!\w\s)([[:upper:]]\w*)(?=\s*\()" "entity.name.function.constructor"
      ["function end", "parameters"],
    push r"(\boperator\b\s*(?:\(\)|\[\]|[^\s\w(]+|\w+))(?=\s*\()" "entity.name.function"
      ["function end", "parameters"],
    push (name ++ r"(?=\s*\()") "entity.name.function" ["function end", "parameters"],
    push r"^\s*(?=\b(?:struct|union|enum|class)\b)" "" ["data structure"],
    use "generic types",
    use "expressions"]),
  ("enumeration body", context [
    use "comments",
    set r"\x7b" "punctuation.section.block.begin" ["enumerators"],
    popElse]),
  ("enumerators", context [
    pop r"\x7d" "punctuation.section.block.end",
    use "early expressions",
    mark ("^\\s*(" ++ name ++ ")(?=\\s*(?:[,=\\x7d]|$))") ""
      |>.parts [(1, "entity.name.constant")],
    use "calls",
    use "late expressions"])]

end CPlusPlus

section

open CPlusPlus

/-- The grammar of C++. -/
def cPlusPlus : Grammar :=
  [("main", context [use "global"])] ++ C.comments ++ C.literals ++ C.preprocessor ++
    C.operators ++ C.libraryTypes ++ expressions ++ outlines ++ declarations ++ classes

end

/-! ### Objective-C -/

namespace ObjectiveC

/-- The contexts of what the language adds to expressions. -/
def additions : Grammar := [
  ("at words", context [
    push (r"(@(?:interface|protocol))(?!.+;)\s+([A-Za-z_]\w*)\s*((?::)(?:\s*)([A-Za-z]\w*))?" ++
      r"(\s|\n)?") "" ["interface"] |>.parts [(1, "storage.type"), (2, "entity.name.type"),
        (4, "entity.other.inherited-class")],
    push r"(@implementation)\s+([A-Za-z_]\w*)\s*(?::\s*([A-Za-z]\w*))?" ""
      ["implementation"] |>.parts [(1, "storage.type"), (2, "entity.name.type"),
        (3, "entity.other.inherited-class")],
    push r"@\x22" "punctuation.definition.string.begin" ["object text"],
    push r"\b(id)\s*(?=<)" "" ["protocols after id"] |>.parts [(1, "storage.type")],
    mark r"\bNS_(?:DURING|HANDLER|ENDHANDLER)\b" "keyword.control.macro",
    mark r"@(?:try|catch|finally|throw)\b" "keyword.control.exception",
    mark r"@synchronized\b" "keyword.control.synchronize",
    mark r"@(?:defs|encode)\b" "keyword.other",
    mark r"\bid\b(?:\s|\n)?" "storage.type.id",
    mark r"\b(?:IBAction|IBOutlet|BOOL|SEL|IMP|unichar|Class)\b" "storage.type",
    mark r"@(?:class|protocol)\b" "storage.type",
    push r"(@selector)\s*(\()" "" ["selector"] |>.parts [(1, "storage.type")],
    mark r"@(?:public|private|protected|package)\b" "storage.modifier",
    mark r"\b(?:YES|NO|Nil|nil)\b" "constant.language",
    use "special names",
    mark (r"\bNS(?:Assert|Log|LocalizedString|StringFrom\w+|Make\w+|Equal\w+|Alloc\w+|" ++
      r"Copy\w+)\b(?=\s*\()") "support.function.cocoa",
    mark r"\b(?:NS|UI|CG|CA|CF)[A-Z]\w*\b" "support.class.cocoa"]),
  ("special names", context [
    mark r"\b_cmd\b" "variable.other.selector",
    mark r"\b(?:self|super)\b" "variable.language"]),
  ("object text", context [
    pop r"\x22" "punctuation.definition.string.end",
    use "escapes",
    mark (r"%(?:\d+\$)?[#0\- +']*(?:-?\d+|\*)?(?:\.(?:-?\d+|\*)?)?(?:hh|h|ll|l|j|t|z|q|L)?" ++
      r"[@diouxXDOUeEfFgGaACcSspn%]") "constant.other.placeholder"]
        |>.whole "string.quoted.double"),
  ("selector", context [
    pop r"\)" "punctuation.definition.storage.type",
    mark r"\b(?:[a-zA-Z_:]\w*)+" "support.function.any-method"]),
  ("protocols after id", context [
    pop r"(?<=>)" "",
    use "protocols"]),
  ("protocols", context [push r"<" "punctuation.section.scope.begin" ["protocol list"]]),
  ("protocol list", context [
    pop r">" "punctuation.section.scope.end",
    mark (r"\bNS(?:GlyphStorage|M(?:utableCopying|enuItem)|C(?:hangeSpelling|o(?:ding|pying|" ++
      r"lorPicking(?:Custom|Default)))|T(?:oolbarItemValidations|ext(?:Input|AttachmentCell))|" ++
      r"I(?:nputServ(?:iceProvider|erMouseTracker)|gnoreMisspelledWords)|Obj(?:CTypeSerial" ++
      r"izationCallBack|ect)|D(?:ecimalNumberBehaviors|raggingInfo)|U(?:serInterface" ++
      r"Validations|RL(?:HandleClient|DownloadDelegate|ProtocolClient|AuthenticationChallenge" ++
      r"Sender))|Validated(?:ToobarItem|UserInterfaceItem)|Locking)\b") "support.other.protocol"]),
  ("brackets", context [
    pop r"\]" "punctuation.section.brackets.end",
    push r"(?<=[\w\])\x22] )\w+(?::|(?=\]))" "support.function.any-method" ["message"],
    use "expressions"]),
  ("message", context [
    pop r"(?=\])" "",
    mark r"\b\w+:" "support.function.any-method.name-of-parameter",
    use "expressions"])]

/-- The contexts of interfaces and implementations. -/
def interfaces : Grammar := [
  ("interface", context [
    pop r"@end\b" "storage.type",
    push r"(@property)\s*(\()" "" ["property"] |>.parts [(1, "keyword.other.property")],
    mark r"@property\b" "keyword.other.property",
    mark r"@(?:optional|required)\b" "keyword.other",
    use "methods",
    use "protocols",
    use "expressions"]),
  ("property", context [
    pop r"\)" "punctuation.section.scope.end",
    mark (r"\b(?:getter|setter|readonly|readwrite|assign|retain|copy|nonatomic|atomic|strong|" ++
      r"weak|nonnull|nullable|null_resettable|null_unspecified|class)\b")
        "keyword.other.property.attribute"]),
  ("implementation", context [
    pop r"@end\b" "storage.type",
    mark r"@(?:dynamic|synthesize)\b" "keyword.other.property.directive",
    use "methods",
    use "expressions"]),
  ("methods", context [push r"^\s*(?:-|\+)\s*" "" ["method"]]),
  ("method", context [
    pop r"(?=\x7b|#)|;" "",
    push r"\(" "punctuation.definition.type.begin" ["returned type"],
    mark r"\b\w+(?=:)" "entity.name.function.name-of-parameter",
    push r"(:)\s*(\()" "" ["argument type"]
      |>.parts [(1, "entity.name.function.name-of-parameter")],
    use "comments"]),
  ("returned type", context [
    pop r"(\))\s*(\w+\b)" "" |>.parts [(2, "entity.name.function")],
    use "type words"]),
  ("argument type", context [
    pop r"(\))\s*(\w+\b)?" "" |>.parts [(2, "variable.parameter.function")],
    use "type words"]),
  ("type words", context [
    use "protocols",
    mark r"\b(?:in|out|inout|oneway|bycopy|byref)\b" "storage.modifier.protocol",
    use "expressions"])]

/-- The contexts that take the place of those of C. -/
def expressions : Grammar := [
  ("early expressions", context [
    use "preprocessor",
    use "comments",
    use "at words",
    push r"\b(?:default|case)\b" "keyword.control" ["case"],
    push r"\btypedef\b" "storage.type" ["type definition"],
    push r"\b(__attribute__)\s*(\()" "" ["group"] |>.parts [(1, "storage.modifier")],
    mark ("\\b(?:" ++ C.control ++ ")\\b") "keyword.control",
    mark r"\bsizeof\b" "keyword.operator.word",
    use "numbers"])]

/-- Contexts with others in the place of those with the same names. -/
def replaced (g h : Grammar) : Grammar := h ++ g.filter fun (name, _) => (h.lookup name).isNone

end ObjectiveC

/-- The grammar of Objective-C. -/
def objectiveC : Grammar :=
  ObjectiveC.replaced c (ObjectiveC.expressions ++ ObjectiveC.additions ++ ObjectiveC.interfaces)

/-- The grammar of Objective-C++. -/
def objectiveCPlusPlus : Grammar :=
  ObjectiveC.replaced cPlusPlus
    (("extra early", context [use "at words"]) :: ObjectiveC.additions ++ ObjectiveC.interfaces)

end DocPreview.Highlight.Language

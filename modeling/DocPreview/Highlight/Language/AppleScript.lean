import DocPreview.Highlight.Grammar

/-!
# The grammar of AppleScript

Statements that hold others end with a line that repeats their first word. Words that no statement
claims are known by kinds: constants, operators, references, commands, properties and classes.
-/

namespace DocPreview.Highlight.Language

open Grammar

namespace AppleScript

/-- The end of a statement that holds others. -/
def ending (word : String) : Entry :=
  pop (r"(?i)^\s*(end(?:\s+" ++ word ++ r")?)(?=\s*(?:--.*)?$)" ) ""
    |>.parts [(1, "keyword.control.end")]

/-- The statements that hold others. -/
def blocks : Grammar := [
  ("main", context [use "blocks", use "statements", use "inline"]),
  ("blocks", context [
    push r"(?i)^\s*(script)\s+(\w+)" "" ["script"]
      |>.parts [(1, "keyword.control.script"), (2, "entity.name.type.script-object")],
    push r"(?i)^\s*(to|on)\s+(\w+)(\()([\s,:\x7b\x7d\w]*)(\))" "" ["handler"] |>.parts [
      (1, "keyword.control.function"), (2, "entity.name.function"),
      (4, "variable.parameter.handler")],
    push r"(?i)^\s*(to|on)\s+(?!error\b)(\w+)(?=\s*(?:--.*)?$)" "" ["handler"]
      |>.parts [(1, "keyword.control.function"), (2, "entity.name.function")],
    push r"(?i)^\s*(tell)\b(?=.*\bto\b)" "" ["told line"] |>.parts [(1, "keyword.control.tell")],
    push r"(?i)^\s*(tell)\b" "" ["told block"] |>.parts [(1, "keyword.control.tell")],
    push r"(?i)^\s*considering\b" "" ["considering", "attributes"],
    push r"(?i)^\s*ignoring\b" "" ["ignoring", "attributes"],
    push r"(?i)^\s*(if)\b(?=.*\bthen\b(?!\s*(?:--.*)?$))" "" ["condition line"]
      |>.parts [(1, "keyword.control.if")],
    push r"(?i)^\s*(if)\b" "" ["condition"] |>.parts [(1, "keyword.control.if")],
    push r"(?i)^\s*(try)\b" "" ["attempt"] |>.parts [(1, "keyword.control.exception.try")],
    push r"(?i)^\s*(using\s+terms\s+from)\b" "" ["terms"]
      |>.parts [(1, "keyword.control.terms")],
    push r"(?i)^\s*(with\s+timeout(?:\s+of)?)\b" "" ["timeout"]
      |>.parts [(1, "keyword.control.timeout")],
    push r"(?i)^\s*(with\s+transaction(?:\s+of)?)\b" "" ["transaction"]
      |>.parts [(1, "keyword.control.transaction")],
    push r"(?i)^\s*(repeat)\s+(until|while)\b" "" ["repetition"]
      |>.parts [(1, "keyword.control.repeat"), (2, "keyword.control.until")],
    push r"(?i)^\s*(repeat)\s+(with)\s+(\w+)" "" ["repetition", "range"] |>.parts [
      (1, "keyword.control.repeat"), (2, "keyword.control.until"),
      (3, "variable.parameter.loop")],
    push r"(?i)^\s*(repeat)\b" "" ["repetition"] |>.parts [(1, "keyword.control.repeat")]]),
  ("script", context [ending "script", use "main"]),
  ("handler", context [
    pop r"(?i)^\s*(end)(?:\s+(\2))?(?=\s*(?:--.*)?$)" ""
      |>.parts [(1, "keyword.control.function"), (2, "entity.name.function")],
    use "main"]),
  ("told line", context [
    pop r"$" "",
    use "statements",
    use "inline"]),
  ("told block", context [ending "tell", use "main"]),
  ("considering", context [
    pop r"(?i)^\s*end(?:\s+considering)?(?=\s*(?:--.*)?$)" "",
    use "main"]),
  ("ignoring", context [
    pop r"(?i)^\s*end(?:\s+ignoring)?(?=\s*(?:--.*)?$)" "",
    use "main"]),
  ("attributes", context [
    pop r"$" "",
    mark (r"(?i)\b(?:application\s+responses|case|diacriticals|expansion|hyphens|" ++
      r"numeric\s+strings|punctuation|white\s+space)\b") "constant.other.attributes",
    use "inline"]),
  ("condition line", context [
    pop r"$" "",
    mark r"(?i)\bthen\b" "keyword.control.then",
    mark r"(?i)\belse\b" "keyword.control.else",
    use "statements",
    use "inline"]),
  ("condition", context [
    ending "if",
    mark r"(?i)\bthen\b" "keyword.control.then",
    mark r"(?i)\belse(?:\s+if)?\b" "keyword.control.else",
    use "main"]),
  ("attempt", context [
    ending "(?:try|error)",
    push r"(?i)^\s*(on\s+error)\b" "" ["error parts"]
      |>.parts [(1, "keyword.control.exception.on-error")],
    use "main"]),
  ("error parts", context [
    pop r"$" "",
    mark r"(?i)\b(?:number|partial|from|to)\b" "keyword.control.exception.modifier",
    use "inline"]),
  ("terms", context [ending r"using\s+terms\s+from", use "main"]),
  ("timeout", context [ending "timeout", use "main"]),
  ("transaction", context [ending "transaction", use "main"]),
  ("range", context [
    pop r"$" "",
    mark r"(?i)\b(?:from|to|by|in)\b" "keyword.control.modifier.range",
    use "inline"]),
  ("repetition", context [
    ending "repeat",
    mark r"(?i)\btimes\b" "keyword.control.times",
    use "main"])]

/-- The statements that stand alone. -/
def statements : Grammar := [
  ("statements", context [
    push r"(?i)\b(prop(?:erty)?)\s+(\w+)\b" "" ["rest of line"]
      |>.parts [(1, "keyword.control.def.property"), (2, "variable.other.property")],
    push r"(?i)\b(set)\s+(\w+)\s+(to)\b" "" ["rest of line"] |>.parts [
      (1, "keyword.control.def.set"), (2, "variable.other.readwrite.set"),
      (3, "keyword.control.def.set")],
    push r"(?i)\b(local)\b" "keyword.control.def.local" ["local names"],
    push r"(?i)\b(global)\b" "keyword.control.def.global" ["global names"],
    push r"(?i)\b(error)\b" "keyword.control.exception.error" ["error parts"]]),
  ("rest of line", context [pop r"$" "", use "inline"]),
  ("local names", context [
    pop r"$" "",
    mark r"\b\w+" "variable.other.readwrite.local",
    use "inline"]),
  ("global names", context [
    pop r"$" "",
    mark r"\b\w+" "variable.other.readwrite.global",
    use "inline"])]

/-- What stands in statements. -/
def inlines : Grammar := [
  ("inline", context [
    use "comments",
    use "data",
    use "constants",
    use "operators",
    use "commands"]),
  ("comments", context [
    push r"--" "punctuation.definition.comment" ["dash comment"],
    push r"^\s*#!" "comment.line.number-sign" ["sign comment"],
    push r"\(\*" "punctuation.definition.comment" ["block comment"]]),
  ("dash comment", context [pop r"\n" ""] |>.whole "comment.line.double-dash"),
  ("sign comment", context [pop r"\n" ""] |>.whole "comment.line.number-sign"),
  ("block comment", context [
    push r"\(\*" "" ["block comment"],
    pop r"\*\)" "punctuation.definition.comment"] |>.whole "comment.block"),
  ("data", context [
    push r"\x7b" "punctuation.section.array.begin" ["array"],
    push r"\x22" "punctuation.definition.string.begin" ["text"],
    mark r"\|[^|\n]*\|" "meta.identifier",
    mark r"«[^»\n]*»" "constant.other.data"]),
  ("array", context [
    pop r"\x7d" "punctuation.section.array.end",
    mark r"([[:alpha:]_]\w*|\|[^|]*\|)\s*(:)" "" |>.parts [(1, "constant.other.key")],
    use "inline"]),
  ("text", context [
    pop r"\x22" "punctuation.definition.string.end",
    mark r"\\." "constant.character.escape"] |>.whole "string.quoted.double"),
  ("constants", context [
    mark r"(?i)\b(?:true|false|yes|no)\b" "constant.language.boolean",
    mark r"(?i)\b(?:null|missing\s+value)\b" "constant.language.null",
    mark r"-?\b\d+(?:(?:\.(?:\d+\b)?)?(?i:e\+?\d*\b)?|\b)" "constant.numeric",
    mark r"(?i)\b(?:space|tab|return|linefeed|quote)\b" "constant.other.text",
    mark (r"(?i)\b(?:all\s+(?:caps|lowercase)|bold|condensed|expanded|hidden|italic|outline|" ++
      r"plain|shadow|small\s+caps|strikethrough|(?:sub|super)script|underline)\b")
      "constant.other.styles",
    mark (r"(?i)\b(?:Jan(?:uary)?|Feb(?:ruary)?|Mar(?:ch)?|Apr(?:il)?|May|Jun(?:e)?|Jul(?:y)?|" ++
      r"Aug(?:ust)?|Sep(?:tember)?|Oct(?:ober)?|Nov(?:ember)?|Dec(?:ember)?)\b")
      "constant.other.time.month",
    mark (r"(?i)\b(?:Mon(?:day)?|Tue(?:sday)?|Wed(?:nesday)?|Thu(?:rsday)?|Fri(?:day)?|" ++
      r"Sat(?:urday)?|Sun(?:day)?)\b") "constant.other.time.weekday",
    mark r"(?i)\b(?:AppleScript|pi|result|version|current\s+application|its?|m[ey])\b"
      "constant.other.miscellaneous",
    mark r"(?i)\b(?:text\s+item\s+delimiters|print\s+(?:length|depth))\b" "variable.language"]),
  ("operators", context [
    mark r"[&*+/÷^-]" "keyword.operator.arithmetic",
    mark r"[=≠≥≤]|[<>]=?" "keyword.operator.comparison",
    mark (r"(?i)\b(?:and|or|div|mod|as|not|(?:a\s+)?(?:ref(?:\s+to)?|reference\s+to)|" ++
      r"equals|equal\s+to|contains?|comes\s+(?:after|before)|(?:start|begin|end)s?\s+with)\b")
      "keyword.operator.word",
    mark (r"(?i)\b(?:(?:is(?:n't|\s+not)?|does(?:n't|\s+not))(?:\s+(?:equal(?:\s+to)?|" ++
      r"(?:less|greater)\s+than(?:\s+or\s+equal(?:\s+to)?)?|in|contain(?:ed\s+by)?|" ++
      r"come\s+(?:before|after)))?|(?:less|greater)\s+than(?:\s+or\s+equal(?:\s+to)?)?)\b")
      "keyword.operator.word",
    mark (r"(?i)\b(?:some|every|whose|where|that|id|index|\d+(?:st|nd|rd|th)|first|second|" ++
      r"third|fourth|fifth|sixth|seventh|eighth|ninth|tenth|last|front|back|middle|named|" ++
      r"beginning|end|from|to|thr(?:u|ough)|before|(?:front|back|beginning|end)\s+of|after|" ++
      r"behind|in\s+(?:front|back|beginning|end)\s+of)\b") "keyword.operator.reference",
    mark r"(?i)\b(?:continue|exit(?:\s+repeat)?)\b" "keyword.control.loop"]),
  ("commands", context [
    mark (r"(?i)\b(?:POSIX\s+path|frontmost|id|name|running|version|days?|weekdays?|months?|" ++
      r"years?|time|date\s+string|time\s+string|length|rest|reverse|items?|contents|" ++
      r"quoted\s+form|characters?|paragraphs?|words?)\b") "support.function.built-in.property",
    mark (r"(?i)\b(?:activate|log|clipboard\s+info|set\s+the\s+clipboard\s+to|the\s+clipboard|" ++
      r"info\s+for|list\s+(?:disks|folder)|mount\s+volume|path\s+to(?:\s+resource)?|" ++
      r"close\s+access|get\s+eof|open\s+for\s+access|read|set\s+eof|write|open\s+location|" ++
      r"current\s+date|do\s+shell\s+script|get\s+volume\s+settings|random\s+number|round|" ++
      r"set\s+volume|system\s+(?:attribute|info)|time\s+to\s+GMT|load\s+script|run\s+script|" ++
      r"scripting\s+components|store\s+script|copy|count|get|launch|run|set|" ++
      r"ASCII\s+(?:character|number)|localized\s+string|offset|summarize|beep|" ++
      r"choose\s+(?:application|color|file(?:\s+name)?|folder|from\s+list|" ++
      r"remote\s+application|URL)|delay|display\s+(?:alert|dialog)|say)\b")
      "support.function.built-in.command",
    mark r"(?i)\b(?:anything|data|text|upper\s+case|propert(?:y|ies))\b"
      "support.class.built-in",
    mark r"(?i)\b(?:alias|class)(?:es)?\b" "support.class.built-in",
    mark (r"(?i)\b(?:app(?:lication)?|boolean|character|constant|date|event|" ++
      r"file(?:\s+specification)?|handler|integer|item|keystroke|linked\s+list|list|machine|" ++
      r"number|picture|preposition|POSIX\s+file|real|record|reference(?:\s+form)?|" ++
      r"RGB\s+color|script|sound|text\s+item|type\s+class|vector|writing\s+code(?:\s+info)?|" ++
      r"zone|(?:(?:international|styled(?:\s+(?:Clipboard|Unicode))?|Unicode)\s+)?text|" ++
      r"(?:(?:C|encoded|Pascal)\s+)?string)s?\b") "support.class.built-in",
    mark (r"(?i)\b(?:(?:cubic\s+(?:centi)?|square\s+(?:kilo)?|centi|kilo)met(?:er|re)s|" ++
      r"square\s+(?:yards|feet|miles)|cubic\s+(?:yards|feet|inches)|miles|inches|lit(?:re|er)s|" ++
      r"gallons|quarts|(?:kilo)?grams|ounces|pounds|degrees\s+(?:Celsius|Fahrenheit|Kelvin))\b")
      "support.class.built-in.unit",
    mark r"(?i)\b(?:seconds|minutes|hours|days)\b" "support.class.built-in.time",
    mark (r"(?i)\b(?:about|above|against|apart\s+from|around|aside\s+from|at|below|beneath|" ++
      r"beside|between|but|by|considering|does|else|error|for|given|global|if|ignoring|in|" ++
      r"instead\s+of|into|local|of|on|onto|out\s+of|over|prop|property|put|repeat|returning|" ++
      r"script|since|tell|the|then|timeout|times|transaction|try|until|while|with|without)\b")
      "keyword.other"])]

end AppleScript

open AppleScript

/-- The grammar of AppleScript. -/
def appleScript : Grammar := blocks ++ statements ++ inlines

end DocPreview.Highlight.Language

import DocPreview.Highlight.Language.ActionScript
import DocPreview.Highlight.Language.AppleScript
import DocPreview.Highlight.Language.Batch
import DocPreview.Highlight.Language.CPlusPlus
import DocPreview.Highlight.Language.CSharp
import DocPreview.Highlight.Language.Command
import DocPreview.Highlight.Language.Compiled
import DocPreview.Highlight.Language.Data
import DocPreview.Highlight.Language.Functional
import DocPreview.Highlight.Language.Groovy
import DocPreview.Highlight.Language.Html
import DocPreview.Highlight.Language.Java
import DocPreview.Highlight.Language.JavaScript
import DocPreview.Highlight.Language.Latex
import DocPreview.Highlight.Language.Lisp
import DocPreview.Highlight.Language.Markdown
import DocPreview.Highlight.Language.Numeric
import DocPreview.Highlight.Language.OCaml
import DocPreview.Highlight.Language.Perl
import DocPreview.Highlight.Language.Php
import DocPreview.Highlight.Language.Python
import DocPreview.Highlight.Language.RegularExpression
import DocPreview.Highlight.Language.Ruby
import DocPreview.Highlight.Language.Rust
import DocPreview.Highlight.Language.Scala
import DocPreview.Highlight.Language.Shell
import DocPreview.Highlight.Language.Template
import DocPreview.Highlight.Machine

/-!
# Languages

A language is known by its name or by an extension of the names of its files; case does not count.

## Main definitions

* `Language`, `languages`: the languages with their grammars.
* `Language.tokenizer?`: the tokenizer for a name or an extension.
-/

namespace DocPreview.Highlight

/-- A language with its grammar. -/
structure Language where
  name : String
  /-- The extensions of the names of files in the language. -/
  extensions : List String
  /-- What reads code in the language; it is made when it is used for the first time. -/
  machine : Thunk Machine

namespace Language

/-- The language of a grammar. -/
def ofGrammar (name : String) (extensions : List String) (g : Grammar) : Language :=
  ⟨name, extensions, .mk fun _ => .ofGrammar g⟩

/-- The languages; of two with the same extension, the first one counts. -/
def all : List Language := [
  .ofGrammar "ActionScript" ["as"] actionScript,
  .ofGrammar "AppleScript" ["applescript", "script editor"] appleScript,
  .ofGrammar "ASP" ["asa"] basic,
  .ofGrammar "Batch File" ["bat", "cmd"] batch,
  .ofGrammar "BibTeX" ["bib"] bibTex,
  .ofGrammar "Bourne Again Shell (bash)" ["sh", "bash", "zsh", "fish", ".bash_aliases",
    ".bash_completions", ".bash_functions", ".bash_login", ".bash_logout", ".bash_profile",
    ".bash_variables", ".bashrc", ".profile", ".textmate_init", ".zshrc"] shell,
  .ofGrammar "C" ["c"] c,
  .ofGrammar "C#" ["cs", "csx"] cSharp,
  .ofGrammar "C++" ["cpp", "cc", "cp", "cxx", "c++", "hh", "hpp", "hxx", "h++", "inl", "ipp"]
    cPlusPlus,
  .ofGrammar "camlp4" [] camlQuotation,
  .ofGrammar "Clojure" ["clj", "cljc", "cljs", "edn"] clojure,
  .ofGrammar "CSS" ["css", "css.erb", "css.liquid"] css,
  .ofGrammar "D" ["d", "di"] d,
  .ofGrammar "Diff" ["diff", "patch"] diff,
  .ofGrammar "Erlang" ["erl", "hrl", "Emakefile", "emakefile"] erlang,
  .ofGrammar "Go" ["go"] go,
  .ofGrammar "Graphviz (DOT)" ["dot", "DOT", "gv"] dot,
  .ofGrammar "Groovy" ["groovy", "gvy", "gradle"] groovy,
  .ofGrammar "Haskell" ["hs"] haskell,
  .ofGrammar "HTML" ["html", "htm", "shtml", "xhtml", "inc", "tmpl", "tpl"] html,
  .ofGrammar "HTML (ASP)" ["asp"] asp,
  .ofGrammar "HTML (Erlang)" ["yaws"] htmlWithErlang,
  .ofGrammar "HTML (Rails)" ["rails", "rhtml", "erb", "html.erb"] erb,
  .ofGrammar "HTML (Tcl)" ["adp"] htmlWithTcl,
  .ofGrammar "Java" ["java", "bsh"] java,
  .ofGrammar "Java Properties" ["properties"] properties,
  .ofGrammar "Java Server Page (JSP)" ["jsp"] jsp,
  .ofGrammar "JavaDoc" [] javaDoc,
  .ofGrammar "JavaScript (Rails)" ["js.erb"] javaScriptWithRuby,
  .ofGrammar "JavaScript" ["js", "htc"] javaScript,
  .ofGrammar "JSON" ["json", "sublime-settings", "sublime-menu", "sublime-keymap",
    "sublime-mousemap", "sublime-theme", "sublime-build", "sublime-project",
    "sublime-completions", "sublime-commands", "sublime-macro", "sublime-color-scheme"] json,
  .ofGrammar "LaTeX" ["tex", "ltx"] latex,
  .ofGrammar "Lisp" ["lisp", "cl", "clisp", "l", "mud", "el", "scm", "ss", "lsp", "fasl"] lisp,
  .ofGrammar "Literate Haskell" ["lhs"] literateHaskell,
  .ofGrammar "Lua" ["lua"] lua,
  .ofGrammar "Makefile" ["make", "GNUmakefile", "makefile", "Makefile", "makefile.am",
    "Makefile.am", "makefile.in", "Makefile.in", "OCamlMakefile", "mak", "mk"] makefile,
  .ofGrammar "Markdown" ["md", "mdown", "markdown", "markdn"] markdown,
  .ofGrammar "Matlab" ["matlab"] matlab,
  .ofGrammar "Objective-C" ["m", "h"] objectiveC,
  .ofGrammar "Objective-C++" ["mm"] objectiveCPlusPlus,
  .ofGrammar "NAnt Build File" ["build"] buildFile,
  .ofGrammar "OCaml" ["ml", "mli"] oCaml,
  .ofGrammar "OCamllex" ["mll"] oCamlLexer,
  .ofGrammar "OCamlyacc" ["mly"] oCamlParser,
  .ofGrammar "Pascal" ["pas", "p", "dpr"] pascal,
  .ofGrammar "Perl" ["pl", "pm", "pod", "t", "PL"] perl,
  .ofGrammar "PHP" ["php", "php3", "php4", "php5", "php7", "phps", "phpt", "phtml"] php,
  .ofGrammar "Python" ["py", "py3", "pyw", "pyi", "rpy", "cpy", "SConstruct", "Sconstruct",
    "sconstruct", "SConscript", "gyp", "gypi", "Snakefile", "wscript"] python,
  .ofGrammar "R" ["R", "r", "s", "S", "Rprofile"] r,
  .ofGrammar "Regular Expression" ["re"] regularExpression,
  .ofGrammar "reStructuredText" ["rst", "rest"] reStructuredText,
  .ofGrammar "Ruby" ["rb", "Appfile", "Appraisals", "Berksfile", "Brewfile", "capfile", "cgi",
    "Cheffile", "config.ru", "Deliverfile", "Fastfile", "fcgi", "Gemfile", "gemspec", "Guardfile",
    "irbrc", "jbuilder", "Podfile", "podspec", "prawn", "rabl", "rake", "Rakefile", "Rantfile",
    "rbx", "rjs", "ruby.rail", "Scanfile", "simplecov", "Snapfile", "thor", "Thorfile",
    "Vagrantfile"] ruby,
  .ofGrammar "Ruby on Rails" ["rxml", "builder"] rails,
  .ofGrammar "Ruby Haml" ["haml", "sass"] haml,
  .ofGrammar "Rust" ["rs"] rust,
  .ofGrammar "Scala" ["scala", "sbt"] scala,
  .ofGrammar "SQL (Rails)" ["erbsql", "sql.erb"] sqlWithRuby,
  .ofGrammar "SQL" ["sql", "ddl", "dml"] sql,
  .ofGrammar "Tcl" ["tcl"] tcl,
  .ofGrammar "TeX" ["sty", "cls"] tex,
  .ofGrammar "Textile" ["textile"] textile,
  .ofGrammar "XML" ["xml", "xsd", "xslt", "tld", "dtml", "rss", "opml", "svg"] xml,
  .ofGrammar "YAML" ["yaml", "yml", "sublime-syntax"] yaml]

/-- Whether two texts differ in the case of ASCII letters at most. -/
def sameName (s : String) (t : Text) : Bool :=
  s.toList.map Char.toLower == t.map Char.toLower

/-- The language with an extension, or else with a name. -/
def find? (name : Text) : Option Language :=
  (all.find? fun l => l.extensions.any (sameName · name)).orElse fun _ =>
    all.find? fun l => sameName l.name name

/-- The names of the languages of plain text. -/
def plainNames : List String := ["txt", "text"]

/-- The tokenizer for a language, if it is known and not plain text. -/
def tokenizer? (name : Text) : Option Tokenizer :=
  if plainNames.any (sameName · name) then none else (find? name).map (·.machine.get.tokenizer)

end Language

end DocPreview.Highlight

import DocPreview.Highlight.Grammar

/-!
# The grammars of MATLAB and R
-/

namespace DocPreview.Highlight.Language

open Grammar

/-! ### MATLAB

White space around an operator belongs to it. A quote is an operator behind a value, and starts a
text elsewhere.
-/

section

namespace Matlab

/-- The functions that test a value; they count as operators. -/
def tests : String :=
  r"isa|iscell|iscellstr|ischar|iscolumn|isdir|isempty|isequal|isequaln|" ++
    r"isfield|isfinite|isfloat|isglobal|ishandle|ishermitian|isinf|isinteger|" ++
    r"isinterface|isjava|iskeyword|isletter|islogical|ismac|ismatrix|ismember|" ++
    r"ismethod|isnan|isnumeric|isobject|ispc|isprime|isprop|isreal|isrow|" ++
    r"isscalar|issorted|isspace|issparse|isstr|isstrprop|isstruct|issymmetric|" ++
    r"isunix|isvarname|isvector"

/-- The functions of the library, part one. -/
def functionsPartOne : String :=
  r"abs|accumarray|acos|acosd|acosh|addpath|all|any|arrayfun|asin|asind|" ++
    r"asinh|assert|assignin|atan|atan2|atand|atanh|axes|axis|bar|base2dec|" ++
    r"beep|bin2dec|bitand|bitor|bitshift|bitxor|blanks|bsxfun|cat|cd|ceil|" ++
    r"cell|cell2mat|cell2struct|cellfun|celldisp|char|chol|circshift|clc|clear|" ++
    r"clearvars|clf|close|colon|colorbar|colormap|complex|cond|conj|contour|" ++
    r"conv|copyfile|cos|cosd|cosh|cross|cumprod|cumsum|date|datestr|datenum|" ++
    r"dbstack|deal|deblank|dec2base|dec2bin|dec2hex|deconv|delete|det|diag|" ++
    r"diary|diff|dir|disp|display|dlmread|dlmwrite|doc|dot|double|drawnow|" ++
    r"edit|eig|erf|error|errordlg|etime|eval|evalc|evalin|exist|exit|exp|" ++
    r"expm|eye|factor|factorial|fclose|feof|feval|fft|fft2|fgetl|fgets|" ++
    r"fieldnames|figure|fileparts|filter|find|findstr|fix|fliplr|flipud|floor|" ++
    r"fminsearch|fopen|format|fprintf|fread|frewind|fscanf|fseek|ftell|full|" ++
    r"fullfile|func2str|fwrite|fzero|gamma|gca|gcbo|gcd|gcf|genpath|get|" ++
    r"getfield|ginput|gradient|griddata|help|hess|hex2dec|hist|histc|horzcat|" ++
    r"hypot|ifft|imag|image|imagesc|imread|imshow|imwrite|ind2sub|inline|" ++
    r"input|inputname|inputParser|int16|int2str|int32|int64|int8|interp1|" ++
    r"interp2|intersect|inv|ipermute|kron|lasterr|lasterror|lcm|legend|length|" ++
    r"line|linspace|load"

/-- The functions of the library, part two. -/
def functionsPartTwo : String :=
  r"log|log10|log1p|log2|logical|loglog|logspace|lookfor|lower|ls|lsqnonneg|" ++
    r"lu|magic|mat2cell|mat2str|max|mean|median|mesh|meshgrid|mex|min|mkdir|" ++
    r"mod|more|movefile|msgbox|nargchk|nchoosek|ndgrid|ndims|nnz|norm|null|" ++
    r"num2cell|num2str|numel|ode45|ones|optimset|orth|pause|pchip|pcolor|" ++
    r"permute|pinv|plot|plot3|polar|poly|polyfit|polyval|primes|print|prod|" ++
    r"profile|pwd|qr|quad|questdlg|quit|quiver|rand|randi|randn|randperm|" ++
    r"rank|real|realmax|realmin|regexp|regexpi|regexprep|rehash|rem|repmat|" ++
    r"reshape|rethrow|rmdir|rmfield|rmpath|roots|rot90|round|rref|run|save|" ++
    r"saveas|scatter|schur|semilogx|semilogy|set|setdiff|setfield|setxor|sign|" ++
    r"sin|sind|single|sinh|size|sort|sortrows|sparse|spline|sprintf|sqrt|" ++
    r"sqrtm|squeeze|sscanf|std|str2double|str2func|str2mat|str2num|strcat|" ++
    r"strcmp|strcmpi|strfind|strjust|strmatch|strncmp|strncmpi|strrep|strsplit|" ++
    r"strtok|strtrim|struct|struct2cell|structfun|strvcat|sub2ind|subplot|sum|" ++
    r"surf|surface|svd|system|tan|tand|tanh|text|textscan|tic|title|toc|" ++
    r"trace|trapz|tril|triu|type|typecast|uigetfile|uint16|uint32|uint64|" ++
    r"uint8|union|unique|unix|unwrap|upper|validatestring|var|vertcat|warndlg|" ++
    r"warning|waitbar|waitfor|which|who|whos|xlabel|xlim|xlsread|xor|ylabel|" ++
    r"ylim|zeros|zlabel|zoom"

end Matlab

open Matlab

/-- The grammar of MATLAB. -/
def matlab : Grammar := [
  ("main", context [
    push r"^\s*%\x7b\s*$\n?" "punctuation.definition.comment" ["block comment"],
    mark r"%.*$\n?" "comment.line.percentage",
    mark r"\.\.\..*$\n?" "",
    push r"^\s*(function)\b" "" ["function head"] |>.parts [(1, "storage.type")],
    push r"\b(classdef)\s+(\w+)" "" ["parent classes"]
      |>.parts [(1, "storage.type.class"), (2, "entity.name.class")],
    push r"\b(properties|methods|events|enumeration)\s*(\()" "" ["attributes"]
      |>.parts [(1, "keyword.control")],
    mark (r"(?<!\.)\b(?:break|case|catch|continue|else|elseif|end|for|function|global|if|" ++
      r"otherwise|persistent|return|spmd|switch|try|while|properties|methods|events|" ++
      r"enumeration)\b") "keyword.control",
    mark r"\b(?:true|false|eps|Inf|inf|NaN|nan|pi|i|j|ans|nargin|nargout|varargin|varargout)\b"
      "constant.language",
    mark r"(?<![\w.])(?:\d+\.?\d*|\.\d+)(?:[eEdD][-+]?\d+)?[ij]?\b" "constant.numeric",
    mark r"\b(hold|grid|box|axis|format|warning|diary|more|echo)\s+(on|off|all)\b" ""
      |>.parts [(1, "support.function.graphics"), (2, "constant.language")],
    mark ("(?<!\\.)\\b(?:" ++ tests ++ ")\\b") "keyword.operator.word",
    mark ("(?<!\\.)\\b(?:" ++ functionsPartOne ++ ")\\b(?!\\s*=[^=])") "keyword.other",
    mark ("(?<!\\.)\\b(?:" ++ functionsPartTwo ++ ")\\b(?!\\s*=[^=])") "keyword.other",
    mark r"(?<=[\w\])\x7d.'])'+" "keyword.operator.transpose",
    push r"'" "punctuation.definition.string.begin" ["single quoted"],
    push r"\x22" "punctuation.definition.string.begin" ["double quoted"],
    mark r"\s*(?:==|~=|<=|>=|&&|\|\||\.\*|\./|\.\^|\.\\|\.'|[-+*/\\^<>&|~:=])\s*"
      "keyword.operator.symbols"]),
  ("function head", context [
    mark r"(?:[a-zA-Z]\w*\.)*[a-zA-Z]\w*(?=\s*(?:\(|%|$))" "entity.name.function",
    mark r"=" "keyword.operator.assignment",
    mark r"[a-zA-Z]\w*" "variable.parameter.output",
    push r"\[" "" ["results"],
    set r"\(" "" ["parameters"],
    pop r"(?=[^\s=,\[\w])|$" ""]),
  ("results", context [
    pop r"\]" "",
    mark r"[a-zA-Z]\w*" "variable.parameter.output"]),
  ("parameters", context [
    pop r"\)|$" "",
    mark r"[a-zA-Z]\w*" "variable.parameter.input"]),
  ("parent classes", context [
    mark r"<" "",
    mark r"&" "",
    mark r"[a-zA-Z][\w.]*" "entity.other.inherited-class",
    popElse]),
  ("attributes", context [
    pop r"\)" "",
    mark r"[a-zA-Z]\w*" "variable.parameter",
    push r"=" "keyword.operator.assignment" ["attribute value"]]),
  ("attribute value", context [
    pop r"(?=[,)])|$" "",
    mark r"[a-zA-Z]\w*" "constant.language"]),
  ("block comment", context [pop r"^\s*%\x7d\s*$\n?" "punctuation.definition.comment"]
    |>.whole "comment.block.percentage"),
  ("single quoted", context [
    mark r"''" "constant.character.escape",
    pop r"'|(?=\n)" "punctuation.definition.string.end",
    use "escapes"] |>.whole "string.quoted.single"),
  ("double quoted", context [
    mark r"\x22\x22" "constant.character.escape",
    pop r"\x22|(?=\n)" "punctuation.definition.string.end",
    use "escapes"] |>.whole "string.quoted.double"),
  ("escapes", context [
    mark r"%[-+ #0]*\d*(?:\.\d+)?[bt]?[cdeEfgGiosuxX]|%%" "constant.character.escape",
    mark r"\\." "constant.character.escape"])]

end

/-! ### R -/

namespace R

/-- A name. -/
def name : String := r"(?:[[:alpha:]]|\.(?![0-9]))[[:alnum:]._]*"

/-- The functions that are known everywhere, part one. -/
def functionsPartOne : String :=
  r"abbreviate|abs|acos|acosh|addNA|addTaskCallback|agrep|agrepl|alist|all|" ++
    r"all\.equal|all\.names|all\.vars|any|anyDuplicated|anyNA|aperm|append|" ++
    r"apply|Arg|args|array|arrayInd|as\.array|as\.character|as\.complex|" ++
    r"as\.data\.frame|as\.Date|as\.difftime|as\.double|as\.environment|" ++
    r"as\.expression|as\.factor|as\.function|as\.integer|as\.list|as\.logical|" ++
    r"as\.matrix|as\.name|as\.numeric|as\.ordered|as\.POSIXct|as\.POSIXlt|as\.raw|" ++
    r"as\.symbol|as\.table|as\.vector|asin|asinh|asS4|assign|atan|atan2|atanh|" ++
    r"attach|attr|attributes|autoload|basename|besselI|besselJ|beta|" ++
    r"bindingIsLocked|bitwAnd|bitwNot|bitwOr|bitwXor|body|bquote|browser|by|" ++
    r"bxp|c|casefold|cat|cbind|ceiling|character|charmatch|chartr|chol|choose|" ++
    r"class|close|colMeans|colnames|colSums|col|commandArgs|comment|complex|" ++
    r"Conj|contributors|cos|cosh|crossprod|cummax|cummin|cumprod|cumsum|cut|" ++
    r"data\.class|data\.frame|data\.matrix|date|deparse|det|detach|determinant|" ++
    r"dget|diag|diff|difftime|digamma|dim|dimnames|dir|dir\.create|dirname|" ++
    r"do\.call|double|dput|dQuote|drop|droplevels|dump|duplicated|emptyenv|" ++
    r"endsWith|environment|environmentName|eval|evalq|exists|exp|expand\.grid|" ++
    r"expm1|expression|factor|file|file\.exists|file\.info|file\.path|" ++
    r"file\.remove|Filter|Find|findInterval|floor|flush|force|formals|format|" ++
    r"formatC|gamma|gc|get|get0|getElement|getOption|getwd|gl|globalenv|" ++
    r"gregexpr|grepl|grep|gsub|iconv|identical|identity|ifelse|Im|inherits|" ++
    r"integer|interaction|intersect|intToBits|intToUtf8|inverse\.rle|" ++
    r"invokeRestart|is\.array|is\.character|is\.complex|is\.data\.frame|is\.double|" ++
    r"is\.element|is\.environment|is\.expression|is\.factor|is\.finite|" ++
    r"is\.function|is\.infinite|is\.integer|is\.list|is\.logical|is\.matrix|" ++
    r"is\.na|is\.name|is\.nan|is\.null|is\.numeric|is\.object|is\.ordered|" ++
    r"is\.primitive|is\.symbol|is\.table|is\.vector|isFALSE|isTRUE|jitter|julian|" ++
    r"kappa|kronecker|labels|lapply|lbeta|lchoose|length|levels|lfactorial|" ++
    r"lgamma|library|licence|list|list2env|list\.dirs|list\.files|load|local|" ++
    r"lockBinding|log|log10|log1p|log2|logb|logical|lower\.tri|ls|make\.names|" ++
    r"make\.unique|Map|mapply|margin\.table|mat\.or\.vec|match|match\.arg|" ++
    r"match\.call|match\.fun|Math|max|max\.col|mean|mem\.limits|merge|message|" ++
    r"min|missing|Mod|mode|months|names|nargs|nchar|ncol|NCOL|Negate|" ++
    r"new\.env|NextMethod|ngettext|nlevels|noquote|norm|normalizePath|nrow|NROW|" ++
    r"numeric|oldClass|on\.exit|open|order|outer|packageEvent|paste|paste0|" ++
    r"path\.expand|pmatch|pmax|pmax\.int|pmin|polyroot|pos\.to\.env|Position|" ++
    r"pretty|prettyNum|print|prmatrix|proc\.time|prod|prop\.table|psigamma|qr|" ++
    r"quarters|quit|quote|R\.home|R\.Version|range|rank|rapply|raw|rawToChar|" ++
    r"Re|read\.dcf|readBin|readline|readLines|readRDS|readRenviron|Recall|" ++
    r"Reduce|reg\.finalizer|regexec|regexpr|regmatches|remove|rep|rep_len|" ++
    r"replace|require|requireNamespace|rev|rle|rm|RNGkind|round|row|row\.names|" ++
    r"rowMeans|rownames|rowsum|rowSums|sapply|save|save\.image|saveRDS|scale|" ++
    r"scan|search|seq|seq\.int|seq_along|seq_len|sequence|setdiff|setequal|" ++
    r"setwd|shQuote|sign|signalCondition|simpleCondition|simpleError|" ++
    r"simpleWarning|simplify2array|sin|sinh|slice\.index|sort|source|split|" ++
    r"sprintf|sqrt|sQuote|srcfile|standardGeneric|startsWith|stderr|stdin|" ++
    r"stdout|stop|stopifnot|storage\.mode|strsplit|strtoi|strtrim|structure|" ++
    r"strwrap|sub|subset|substitute|substr|substring|sum|summary|" ++
    r"suppressMessages|suppressPackageStartupMessages|suppressWarnings|svd|sweep|" ++
    r"Sys\.chmod|Sys\.Date|Sys\.getenv|Sys\.getlocale|Sys\.getpid|Sys\.info|" ++
    r"Sys\.setenv|Sys\.setlocale|Sys\.sleep|Sys\.time|sys\.call|sys\.function|" ++
    r"system|system\.file|system\.time|t|table|tabulate|tan|tanh|tcrossprod|" ++
    r"tempdir|tempfile|tolower|toupper|tracemem|trace|transform|trigamma|trimws|" ++
    r"trunc|try|tryCatch|typeof|union|unique|units|unlink|unlist|unname|" ++
    r"unsplit|upper\.tri|url|UseMethod|utf8ToInt|validUTF8|vapply|vector|" ++
    r"Vectorize|warning|warnings"

/-- The functions that are known everywhere, part two. -/
def functionsPartTwo : String :=
  r"which|which\.max|which\.min|with|within|write|xor|zapsmall|acf|aggregate|" ++
    r"AIC|anova|ansari\.test|aov|approx|approxfun|ar|arima|as\.dist|" ++
    r"as\.formula|ave|bartlett\.test|BIC|binom\.test|binomial|biplot|Box\.test|" ++
    r"bw\.nrd|C|cancor|chisq\.test|cmdscale|coef|coefficients|complete\.cases|" ++
    r"confint|constrOptim|contrasts|convolve|cor|cor\.test|cov|cutree|cycle|D|" ++
    r"dbeta|dbinom|dchisq|decompose|delete\.response|density|deriv|deviance|" ++
    r"dexp|df|dgamma|dgeom|dhyper|dist|dlnorm|dlogis|dmultinom|dnbinom|dnorm|" ++
    r"dpois|dt|dunif|dweibull|ecdf|effects|embed|end|estVar|" ++
    r"expand\.model\.frame|factanal|fft|filter|fisher\.test|fitted|fivenum|" ++
    r"formula|frequency|friedman\.test|ftable|Gamma|gaussian|get_all_vars|glm|" ++
    r"hclust|heatmap|HoltWinters|I|influence|integrate|interaction\.plot|" ++
    r"inverse\.gaussian|IQR|is\.ts|isoreg|KalmanRun|kmeans|kruskal\.test|" ++
    r"ks\.test|ksmooth|lag|line|lm|loadings|loess|logLik|loglin|lowess|" ++
    r"ls\.diag|lsfit|mad|mahalanobis|make\.link|mantelhaen\.test|mcnemar\.test|" ++
    r"median|medpolish|model\.frame|model\.matrix|monthplot|mood\.test|na\.fail|" ++
    r"na\.omit|na\.pass|naprint|nlm|nlminb|nls|numericDeriv|offset|oneway\.test|" ++
    r"optim|optimHess|optimise|optimize|order\.dendrogram|p\.adjust|" ++
    r"pairwise\.t\.test|pbeta|pbinom|pchisq|pexp|pf|pgamma|plclust|plogis|" ++
    r"pnorm|poisson|poly|power|power\.t\.test|ppoints|ppr|prcomp|predict|" ++
    r"princomp|profile|proj|prop\.test|pt|punif|qbeta|qbinom|qchisq|qexp|qf|" ++
    r"qgamma|qnorm|qqline|qqnorm|qqplot|qt|quade\.test|quantile|quasi|qunif|" ++
    r"r2dtable|rbeta|rbinom|rcauchy|rchisq|read\.ftable|relevel|reorder|reshape|" ++
    r"resid|residuals|rexp|rf|rgamma|rgeom|rhyper|rlnorm|rlogis|rmultinom|" ++
    r"rnbinom|rnorm|rpois|rstandard|rstudent|rt|runif|runmed|rweibull|rwilcox|" ++
    r"scatter\.smooth|sd|se\.contrast|setNames|shapiro\.test|sigma|simulate|" ++
    r"smooth|spline|splinefun|start|step|stepfun|stl|StructTS|supsmu|t\.test|" ++
    r"terms|time|toeplitz|ts|tsdiag|TukeyHSD|uniroot|update|var|var\.test|" ++
    r"varimax|vcov|weighted\.mean|weights|wilcox\.test|window|xtabs|apropos|" ++
    r"as\.person|as\.roman|browseURL|capture\.output|citation|combn|" ++
    r"compareVersion|count\.fields|data|demo|download\.file|edit|example|" ++
    r"file\.edit|find|fix|fixInNamespace|getAnywhere|getParseData|getS3method|" ++
    r"glob2rx|globalVariables|head|help|history|install\.packages|" ++
    r"installed\.packages|is\.relistable|menu|methods|modifyList|news|" ++
    r"object\.size|package\.skeleton|packageVersion|page|person|read\.csv|" ++
    r"read\.csv2|read\.delim|read\.fwf|read\.table|recover|Rprof|RSiteSearch|" ++
    r"sessionInfo|stack|str|strcapture|tail|tar|toBibtex|txtProgressBar|" ++
    r"setTxtProgressBar|type\.convert|unstack|untar|unzip|update\.packages|" ++
    r"vignette|View|write\.csv|write\.csv2|write\.table|zip|abline|arrows|" ++
    r"assocplot|axis|axTicks|barplot|box|boxplot|cdplot|clip|contour|coplot|" ++
    r"curve|dotchart|filled\.contour|frame|grid|hist|identify|image|layout|" ++
    r"legend|lines|locator|matlines|matplot|mosaicplot|mtext|pairs|par|persp|" ++
    r"pie|plot|plot\.new|plot\.window|points|polygon|rect|rug|segments|" ++
    r"smoothScatter|spineplot|stars|stem|strheight|stripchart|strwidth|" ++
    r"sunflowerplot|symbols|text|title|adjustcolor|as\.raster|bitmap|bmp|" ++
    r"boxplot\.stats|cairo_pdf|cm\.colors|col2rgb|colorRamp|colorRampPalette|" ++
    r"colors|colours|contourLines|convertColor|dev\.control|dev\.copy|dev\.cur|" ++
    r"dev\.list|dev\.new|dev\.off|dev\.set|extendrange|gray|grey|gray\.colors|" ++
    r"hcl|heat\.colors|hsv|jpeg|n2mfrow|palette|pdf|pictex|png|postscript|" ++
    r"quartz|rainbow|recordPlot|rgb|rgb2hsv|savePlot|svg|terrain\.colors|tiff|" ++
    r"topo\.colors|trans3d|x11|xfig|xy\.coords|as|callGeneric|callNextMethod|" ++
    r"canCoerce|existsMethod|extends|findClass|findMethod|getClass|getGeneric|" ++
    r"getGenerics|getMethod|getSlots|getValidity|hasArg|hasMethod|is|" ++
    r"isVirtualClass|new|removeMethod|representation|selectMethod|setAs|setClass|" ++
    r"setClassUnion|setGeneric|setGroupGeneric|setIs|setMethod|setRefClass|" ++
    r"setReplaceMethod|setValidity|show|showMethods|signature|slot|slotNames|" ++
    r"validObject|rbind"

/-- The contexts of R. -/
def contexts : Grammar := [
  ("main", context [
    use "comments",
    use "constants",
    use "numbers",
    use "keywords",
    use "operators",
    use "strings",
    use "functions",
    use "groups",
    mark r"[)\]\x7d]" "invalid.illegal.stray-bracket-end"]),
  ("comments", context [
    mark r"#.*$\n?" "comment.line.number-sign"]),
  ("constants", context [
    mark r"\b(?:pi|letters|LETTERS|month\.abb|month\.name)\b" "support.constant.misc",
    mark (r"\b(?:TRUE|FALSE|NULL|NA|NA_integer_|NA_real_|NA_complex_|NA_character_|Inf|NaN)\b")
      "constant.language"]),
  ("numbers", context [
    mark r"\b0[xX]\h+[iL]?\b" "constant.numeric.hexadecimal",
    mark r"\b\d+\.?\d*(?:[eE][-+]?\d+)?i\b|\.\d+(?:[eE][-+]?\d+)?i\b"
      "constant.numeric.imaginary",
    mark r"\b\d+\.?\d*L\b" "constant.numeric.integer",
    mark r"\b\d+\.?\d*(?:[eE][-+]?\d+)?\b|\.\d+(?:[eE][-+]?\d+)?\b"
      "constant.numeric.float"]),
  ("keywords", context [
    mark r"\b(?:break|next|repeat|else|in)\b" "keyword.control",
    mark r"\b(?:if|for|return|switch|while|invisible)\b(?=\s*\()" "keyword.control",
    push (r"(?<![.\w])function(?=\s*\()") "storage.type.function" ["parameters"]]),
  ("operators", context [
    mark r"%[^%\s]*%" "keyword.operator.other",
    mark r"<<?-|->>?" "keyword.operator.assignment",
    mark r"==|<=|>=|!=|<|>" "keyword.operator.comparison",
    mark r"&&?|\|\|?|!" "keyword.operator.logical",
    mark r"[-+*/^]" "keyword.operator.arithmetic",
    mark r"=" "keyword.operator.assignment",
    mark r"\.\.\.|[$:~@]" "keyword.other"]),
  ("strings", context [
    push r"\x22" "punctuation.definition.string.begin" ["double quoted"],
    push r"'" "punctuation.definition.string.begin" ["single quoted"],
    mark r"\x60[^\x60\n]*\x60" ""]),
  ("double quoted", context [
    pop r"\x22" "punctuation.definition.string.end",
    use "escapes"] |>.whole "string.quoted.double"),
  ("single quoted", context [
    pop r"'" "punctuation.definition.string.end",
    use "escapes"] |>.whole "string.quoted.single"),
  ("escapes", context [
    mark r"\\(?:[0-7]{1,3}|x\h{1,2}|u\h{1,4}|U\h{1,8}|.)" "constant.character.escape"]),
  ("functions", context [
    mark (name ++ r"(?=\s*(?:<<?-|=)\s*function(?![.\w]))") "entity.name.function",
    push ("(?<![.\\w$@])(?:" ++ functionsPartOne ++ r")(?=\s*\()") "support.function"
      ["arguments"],
    push ("(?<![.\\w$@])(?:" ++ functionsPartTwo ++ r")(?=\s*\()") "support.function"
      ["arguments"],
    push (name ++ r"(?=\s*\()") "variable.function" ["arguments"],
    mark name ""]),
  ("arguments", context [
    set r"\(" "punctuation.section.parens.begin" ["argument list"],
    popElse]),
  ("argument list", context [
    pop r"\)" "punctuation.section.parens.end",
    mark ("(" ++ name ++ r")\s*(=)(?!=)") ""
      |>.parts [(1, "variable.parameter"), (2, "keyword.operator.assignment")],
    mark r"," "punctuation.separator.parameters",
    use "main"]),
  ("parameters", context [
    set r"\(" "punctuation.section.parens.begin" ["parameter list"],
    popElse]),
  ("parameter list", context [
    pop r"\)" "punctuation.section.parens.end",
    use "comments",
    mark r"\.\.\." "variable.parameter",
    push r"=" "keyword.operator.assignment" ["default value"],
    mark name "variable.parameter",
    mark r"," "punctuation.separator.parameters"]),
  ("default value", context [
    pop r"(?=[,)])" "",
    use "main"]),
  ("groups", context [
    push r"\(" "punctuation.section.parens.begin" ["group"],
    push r"\[\[" "punctuation.section.double-brackets.begin" ["double brackets"],
    push r"\[" "punctuation.section.brackets.begin" ["brackets"],
    push r"\x7b" "punctuation.section.block.begin" ["block"]]),
  ("group", context [
    pop r"\)" "punctuation.section.parens.end",
    use "main"]),
  ("brackets", context [
    pop r"\]" "punctuation.section.brackets.end",
    use "main"]),
  ("double brackets", context [
    pop r"\]\]" "punctuation.section.double-brackets.end",
    use "main"]),
  ("block", context [
    pop r"\x7d" "punctuation.section.block.end",
    use "main"])]

end R

/-- The grammar of R. -/
def r : Grammar := R.contexts

end DocPreview.Highlight.Language

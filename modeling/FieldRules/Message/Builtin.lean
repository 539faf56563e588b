import FieldRules.Entries

namespace FieldRules.Builtin

def english : List (String × String) := [
  ("present", "The \x7b0\x7d field must be present."),
  ("required", "The \x7b0\x7d field is required."),
  ("requiredWith", "The \x7b1\x7d field is required when \x7b0\x7d is present."),
  ("requiredWithAll", "The \x7b1\x7d field is required when \x7b0\x7d are present."),
  ("requiredWithout", "The \x7b1\x7d field is required when \x7b0\x7d is not present."),
  ("requiredWithoutAll", "The \x7b1\x7d field is required when none of \x7b0\x7d are present."),
  ("confirmed", "The \x7b0\x7d confirmation does not match."),
  ("none", "The \x7b0\x7d field is invalid."),
  ("same", "The \x7b0\x7d and \x7b1\x7d must match."),
  ("different", "The \x7b0\x7d and \x7b1\x7d must be different."),
  ("string.national", "The \x7b0\x7d must be a valid national code."),
  ("string.filled", "The \x7b0\x7d field must have a value."),
  ("string.in", "The selected \x7b0\x7d is invalid."),
  ("string.inArray", "The \x7b0\x7d field does not exist in \x7b1\x7d."),
  ("string.notIn", "The selected \x7b0\x7d is invalid."),
  ("string.url", "The \x7b0\x7d format is invalid."),
  ("string.uuid", "The \x7b0\x7d must be a valid UUID."),
  ("string.email", "The \x7b0\x7d must be a valid email address."),
  ("string.mobile", "The \x7b0\x7d must be a valid mobile number."),
  ("string.phone", "The \x7b0\x7d must be a valid phone number."),
  ("string.ip", "The \x7b0\x7d must be a valid IP address."),
  ("string.ipv4", "The \x7b0\x7d must be a valid IPv4 address."),
  ("string.ipv6", "The \x7b0\x7d must be a valid IPv6 address."),
  ("string.json", "The \x7b0\x7d must be a valid JSON object."),
  ("string.size", "The \x7b0\x7d must be \x7b1\x7d characters."),
  ("string.min", "The \x7b0\x7d must be at least \x7b1\x7d characters."),
  ("string.max", "The \x7b0\x7d may not be greater than \x7b1\x7d characters."),
  ("string.between", "The \x7b0\x7d must be between \x7b1\x7d and \x7b2\x7d characters."),
  ("string.regex", "The \x7b0\x7d format is invalid."),
  ("string.username", "The \x7b0\x7d may only contain letters, numbers, dashes and underscores."),
  ("string.alphaNum", "The \x7b0\x7d may only contain letters and numbers."),
  ("string.persian", "The \x7b0\x7d may only contain Persian letters."),
  ("string.alpha", "The \x7b0\x7d may only contain letters."),
  ("string.startsWith", "The \x7b0\x7d must start with one of the following: \x7b1\x7d"),
  ("string.endsWith", "The \x7b0\x7d must end with one of the following: \x7b1\x7d"),
  ("string.contains", "The \x7b0\x7d must contain one of the following: \x7b1\x7d"),
  ("number.digits", "The \x7b0\x7d must be \x7b1\x7d digits."),
  ("number.digitsBetween", "The \x7b0\x7d must be between \x7b1\x7d and \x7b2\x7d digits."),
  ("number.greaterThan", "The \x7b0\x7d must be greater than \x7b1\x7d."),
  ("number.greaterThanOrEqual", "The \x7b0\x7d must be greater than or equal to \x7b1\x7d."),
  ("number.lessThan", "The \x7b0\x7d must be less than \x7b1\x7d."),
  ("number.lessThanOrEqual", "The \x7b0\x7d must be less than or equal to \x7b1\x7d."),
  ("number.between", "The \x7b0\x7d must be between \x7b1\x7d and \x7b2\x7d."),
  ("number.in", "The selected \x7b0\x7d is invalid."),
  ("date.after", "The \x7b0\x7d (\x7b1\x7d) must be a date after \x7b2\x7d."),
  ("date.before", "The \x7b0\x7d (\x7b1\x7d) must be a date before \x7b2\x7d."),
  ("date.between", "The \x7b0\x7d (\x7b1\x7d) must be a date between \x7b2\x7d and \x7b3\x7d."),
  ("type.string", "The \x7b0\x7d field must be a string."),
  ("type.array", "The \x7b0\x7d must be an array."),
  ("type.object", "The \x7b0\x7d must be an object."),
  ("type.number", "The \x7b0\x7d must be a number or a string of digits."),
  ("type.bool", "The \x7b0\x7d field must be true or false."),
  ("type.file", "The \x7b0\x7d must be a valid file."),
  ("type.image", "The \x7b0\x7d must be a valid image."),
  ("type.date", "The \x7b0\x7d is not a valid date."),
  ("type.none", "The \x7b0\x7d field is declared with an unknown type.")]

def persian : List (String × String) := [
  ("attributes.name", "نام"),
  ("attributes.age", "سن"),
  ("attributes.family", "خانواده"),
  ("present", "فیلد \x7b0\x7d باید در پارامترهای ارسالی وجود داشته باشد."),
  ("required", "فیلد \x7b0\x7d الزامی است."),
  ("requiredWith", "در صورت وجود فیلد \x7b0\x7d، فیلد \x7b1\x7d نیز الزامی است."),
  ("requiredWithAll", "در صورت وجود فیلدهای \x7b0\x7d، فیلد \x7b1\x7d نیز الزامی است."),
  ("requiredWithout", "در صورت عدم وجود فیلد \x7b0\x7d، فیلد \x7b1\x7d الزامی است."),
  ("requiredWithoutAll", "در صورت عدم وجود فیلدهای \x7b0\x7d، فیلد \x7b1\x7d الزامی است."),
  ("confirmed", "\x7b0\x7d با فیلد تکرار مطابقت ندارد."),
  ("none", "فیلد \x7b0\x7d اشتباه است."),
  ("same", "\x7b0\x7d و \x7b1\x7d باید همانند هم باشند."),
  ("different", "\x7b0\x7d و \x7b1\x7d باید از یکدیگر متفاوت باشند."),
  ("string.national", "فیلد \x7b0\x7d باید یک کد ملی معتبر باشد."),
  ("string.filled", "فیلد \x7b0\x7d باید مقدار داشته باشد."),
  ("string.in", "\x7b0\x7d انتخاب شده، معتبر نیست."),
  ("string.inArray", "فیلد \x7b0\x7d در لیست \x7b1\x7d وجود ندارد."),
  ("string.notIn", "\x7b0\x7d انتخاب شده، معتبر نیست."),
  ("string.url", "\x7b0\x7d معتبر نمی‌باشد."),
  ("string.uuid", "\x7b0\x7d باید یک UUID معتبر باشد."),
  ("string.email", "\x7b0\x7d باید یک ایمیل معتبر باشد."),
  ("string.mobile", "\x7b0\x7d باید یک شماره موبایل معتبر باشد."),
  ("string.phone", "\x7b0\x7d باید یک شماره تلفن معتبر باشد."),
  ("string.ip", "\x7b0\x7d باید آدرس IP معتبر باشد."),
  ("string.ipv4", "\x7b0\x7d باید یک آدرس معتبر از نوع IPv4 باشد."),
  ("string.ipv6", "\x7b0\x7d باید یک آدرس معتبر از نوع IPv6 باشد."),
  ("string.json", "فیلد \x7b0\x7d باید یک رشته از نوع JSON باشد."),
  ("string.size", "\x7b0\x7d باید برابر با \x7b1\x7d کاراکتر باشد."),
  ("string.min", "\x7b0\x7d نباید کمتر از \x7b1\x7d کاراکتر داشته باشد."),
  ("string.max", "\x7b0\x7d نباید بیشتر از \x7b1\x7d کاراکتر داشته باشد."),
  ("string.between", "\x7b0\x7d باید بین \x7b1\x7d و \x7b2\x7d کاراکتر باشد."),
  ("string.regex", "فرمت \x7b0\x7d معتبر نیست."),
  ("string.username", "\x7b0\x7d باید فقط حروف الفبا، اعداد، خط تیره و زیرخط باشد."),
  ("string.alphaNum", "\x7b0\x7d باید فقط حروف الفبا و اعداد باشد."),
  ("string.persian", "\x7b0\x7d باید فقط حروف الفبای فارسی باشد."),
  ("string.alpha", "\x7b0\x7d باید فقط حروف الفبا باشد."),
  ("string.startsWith", "\x7b0\x7d باید با یکی از این ها شروع شود: \x7b1\x7d"),
  ("string.endsWith", "فیلد \x7b0\x7d باید با یکی از مقادیر زیر خاتمه یابد: \x7b1\x7d"),
  ("string.contains", "فیلد \x7b0\x7d باید شامل یکی از مقادیر زیر باشد: \x7b1\x7d"),
  ("number.digits", "\x7b0\x7d باید \x7b1\x7d رقم باشد."),
  ("number.digitsBetween", "\x7b0\x7d باید بین \x7b1\x7d و \x7b2\x7d رقم باشد."),
  ("number.greaterThan", "\x7b0\x7d باید بزرگتر از \x7b1\x7d باشد."),
  ("number.greaterThanOrEqual", "\x7b0\x7d باید بزرگتر یا مساوی \x7b1\x7d باشد."),
  ("number.lessThan", "\x7b0\x7d باید کوچکتر از \x7b1\x7d باشد."),
  ("number.lessThanOrEqual", "\x7b0\x7d باید کوچکتر یا مساوی \x7b1\x7d باشد."),
  ("number.between", "\x7b0\x7d باید بین \x7b1\x7d و \x7b2\x7d باشد."),
  ("number.in", "\x7b0\x7d انتخاب شده، معتبر نیست."),
  ("date.after", "\x7b0\x7d(\x7b1\x7d) باید تاریخی بعد از \x7b2\x7d باشد."),
  ("date.before", "\x7b0\x7d(\x7b1\x7d) باید تاریخی قبل از \x7b2\x7d باشد."),
  ("date.between", "\x7b0\x7d(\x7b1\x7d) باید تاریخی بین \x7b2\x7d و \x7b3\x7d باشد."),
  ("type.string", "فیلد \x7b0\x7d باید رشته باشد."),
  ("type.array", "\x7b0\x7d باید آرایه باشد."),
  ("type.object", "\x7b0\x7d باید آبجکت باشد."),
  ("type.number", "\x7b0\x7d باید عدد یا رشته‌ای از اعداد باشد."),
  ("type.bool", "فیلد \x7b0\x7d فقط می‌تواند true و یا false باشد."),
  ("type.file", "\x7b0\x7d باید یک فایل معتبر باشد."),
  ("type.image", "\x7b0\x7d باید یک تصویر معتبر باشد."),
  ("type.date", "\x7b0\x7d یک تاریخ معتبر نیست."),
  ("type.none", "فیلد \x7b0\x7d در سرور اشتباه تعریف شده است.")]

end FieldRules.Builtin

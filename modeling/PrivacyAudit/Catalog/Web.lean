import PrivacyAudit.Catalog.Basic

/-!
# The catalog for web projects
-/

namespace PrivacyAudit.Catalog

/-- The rules for web projects. -/
def webText : CatalogText where
  name := "WebDetector"
  extensions := ["js", "mjs", "ts", "jsx", "tsx", "html", "htm", "xhtml", "vue", "svelte", "css",
    "scss", "less", "json"]
  rules := [
    ⟨.webApis, "GEOLOCATION", "navigator\\.geolocation|getCurrentPosition", none⟩,
    ⟨.webApis, "CAMERA", "navigator\\.mediaDevices\\.getUserMedia|video.*camera", none⟩,
    ⟨.webApis, "MICROPHONE", "navigator\\.mediaDevices\\.getUserMedia|audio.*microphone", none⟩,
    ⟨.webApis, "NOTIFICATIONS", "Notification\\.requestPermission|new Notification", none⟩,
    ⟨.webApis, "CLIPBOARD", "navigator\\.clipboard|document\\.execCommand.*copy", none⟩,
    ⟨.webApis, "DEVICE_ORIENTATION", "DeviceOrientationEvent|DeviceMotionEvent", none⟩,
    ⟨.webApis, "FULLSCREEN",
      "requestFullscreen|webkitRequestFullscreen|exitFullscreen|webkitExitFullscreen", none⟩,
    ⟨.webApis, "SCREEN_CAPTURE", "getDisplayMedia|captureStream", none⟩,
    ⟨.storage, "COOKIES", "document\\.cookie|Cookie", none⟩,
    ⟨.storage, "LOCAL_STORAGE", "localStorage\\.|sessionStorage\\.", none⟩,
    ⟨.storage, "INDEXED_DB", "indexedDB|IDBDatabase", none⟩,
    ⟨.storage, "WEB_SQL", "openDatabase|webkitStorageInfo", none⟩,
    ⟨.storage, "CACHE_API", "caches\\.|\\bCache\\b", none⟩,
    ⟨.tracking, "GOOGLE_ANALYTICS",
      "gtag\\(|\\bga\\(|GoogleAnalytics|google-analytics|www\\.googletagmanager\\.com/gtag/js|dataLayer\\s*=\\s*\\[", none⟩,
    ⟨.tracking, "GOOGLE_TAG_MANAGER", "\\bgtm\\.|GoogleTagManager", none⟩,
    ⟨.tracking, "FACEBOOK_PIXEL", "fbq\\(|facebook.*pixel", none⟩,
    ⟨.tracking, "MIXPANEL", "mixpanel\\.|Mixpanel", none⟩,
    ⟨.tracking, "AMPLITUDE", "amplitude\\.|Amplitude", none⟩,
    ⟨.tracking, "HOTJAR", "hotjar|\\bhj\\(", none⟩,
    ⟨.tracking, "INTERCOM", "Intercom\\(|intercom", none⟩,
    ⟨.tracking, "ZENDESK", "(?-i:\\bzE\\()|zendesk", none⟩,
    ⟨.tracking, "CRISP", "crisp|CRISP_WEBSITE_ID", none⟩,
    ⟨.thirdPartyServices, "FIREBASE", "firebase", none⟩,
    ⟨.thirdPartyServices, "FACEBOOK_SDK", "connect\\.facebook\\.net/.*/sdk\\.js|(?-i:\\bFB\\.)",
      none⟩,
    ⟨.thirdPartyServices, "AWS_SDK", "aws-sdk|(?-i:\\bAWS\\.)", none⟩,
    ⟨.thirdPartyServices, "STRIPE", "Stripe\\(|stripe\\.js", none⟩,
    ⟨.thirdPartyServices, "PAYPAL", "paypal", none⟩,
    ⟨.thirdPartyServices, "RECAPTCHA", "grecaptcha|recaptcha", none⟩,
    ⟨.thirdPartyServices, "MAPS", "google.*maps|mapbox|leaflet", none⟩,
    ⟨.thirdPartyServices, "SOCIAL_LOGIN", "oauth|social.*login", none⟩,
    ⟨.dataCollection, "FORM_DATA", "<form|input.*type|FormData", none⟩,
    ⟨.dataCollection, "USER_AGENT", "navigator\\.userAgent", none⟩,
    ⟨.dataCollection, "SCREEN_INFO", "\\bscreen\\.|window\\.screen", none⟩,
    ⟨.dataCollection, "REFERRER", "document\\.referrer", none⟩,
    ⟨.dataCollection, "FINGERPRINTING", "canvas.*fingerprint|audio.*fingerprint", none⟩,
    ⟨.dataCollection, "WEBSOCKETS", "WebSocket|socket\\.io", none⟩,
    ⟨.dataCollection, "FETCH_API", "fetch\\(|axios\\.|XMLHttpRequest", none⟩]

end PrivacyAudit.Catalog

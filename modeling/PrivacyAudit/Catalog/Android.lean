import PrivacyAudit.Catalog.Basic

/-!
# The catalog for Android projects
-/

namespace PrivacyAudit.Catalog

/-- The rules for Android projects. -/
def androidText : CatalogText where
  name := "AndroidDetector"
  extensions := ["java", "kt", "kts", "xml", "gradle"]
  rules := [
    ⟨.permissions, "CAMERA", "android\\.permission\\.CAMERA|uses-permission.*CAMERA", none⟩,
    ⟨.permissions, "LOCATION_FINE", "android\\.permission\\.ACCESS_FINE_LOCATION", none⟩,
    ⟨.permissions, "LOCATION_COARSE", "android\\.permission\\.ACCESS_COARSE_LOCATION", none⟩,
    ⟨.permissions, "MICROPHONE", "android\\.permission\\.RECORD_AUDIO", none⟩,
    ⟨.permissions, "CONTACTS_READ", "android\\.permission\\.READ_CONTACTS", none⟩,
    ⟨.permissions, "CONTACTS_WRITE", "android\\.permission\\.WRITE_CONTACTS", none⟩,
    ⟨.permissions, "STORAGE_READ", "android\\.permission\\.READ_EXTERNAL_STORAGE", none⟩,
    ⟨.permissions, "STORAGE_WRITE", "android\\.permission\\.WRITE_EXTERNAL_STORAGE", none⟩,
    ⟨.permissions, "PHONE_STATE", "android\\.permission\\.READ_PHONE_STATE", none⟩,
    ⟨.permissions, "CALL_PHONE", "android\\.permission\\.CALL_PHONE", none⟩,
    ⟨.permissions, "SMS_SEND", "android\\.permission\\.SEND_SMS", none⟩,
    ⟨.permissions, "SMS_READ", "android\\.permission\\.READ_SMS", none⟩,
    ⟨.permissions, "CALENDAR_READ", "android\\.permission\\.READ_CALENDAR", none⟩,
    ⟨.permissions, "CALENDAR_WRITE", "android\\.permission\\.WRITE_CALENDAR", none⟩,
    ⟨.permissions, "BIOMETRIC", "android\\.permission\\.USE_BIOMETRIC|USE_FINGERPRINT", none⟩,
    ⟨.apis, "CAMERA_API", "Camera\\.|CameraX|Camera2", none⟩,
    ⟨.apis, "LOCATION_API", "LocationManager|FusedLocationProviderClient", none⟩,
    ⟨.apis, "AUDIO_RECORD", "AudioRecord|MediaRecorder", none⟩,
    ⟨.apis, "CONTACTS_API", "ContactsContract", none⟩,
    ⟨.apis, "TELEPHONY", "TelephonyManager", none⟩,
    ⟨.apis, "SMS_API", "SmsManager", none⟩,
    ⟨.apis, "BIOMETRIC_API", "BiometricPrompt|FingerprintManager", none⟩,
    ⟨.thirdPartyLibs, "FIREBASE", "com\\.google\\.firebase|firebase-", none⟩,
    ⟨.thirdPartyLibs, "GOOGLE_PLAY_SERVICES", "com\\.google\\.android\\.gms", none⟩,
    ⟨.thirdPartyLibs, "FACEBOOK_SDK", "com\\.facebook\\.android", none⟩,
    ⟨.thirdPartyLibs, "ADMOB", "com\\.google\\.android\\.gms\\.ads", none⟩,
    ⟨.thirdPartyLibs, "CRASHLYTICS", "com\\.crashlytics|firebase-crashlytics", none⟩,
    ⟨.thirdPartyLibs, "ANALYTICS", "com\\.google\\.analytics|firebase-analytics", none⟩,
    ⟨.thirdPartyLibs, "APPSFLYER", "com\\.appsflyer", none⟩,
    ⟨.thirdPartyLibs, "ADJUST", "com\\.adjust\\.sdk", none⟩,
    ⟨.dataCollection, "NETWORK_ACCESS", "android\\.permission\\.INTERNET",
      some "AndroidManifest.xml"⟩,
    ⟨.dataCollection, "NETWORK_STATE",
      "android\\.permission\\.ACCESS_NETWORK_STATE", some "AndroidManifest.xml"⟩,
    ⟨.dataCollection, "DEVICE_ID",
      "android\\.permission\\.READ_PHONE_STATE", some "AndroidManifest.xml"⟩]

end PrivacyAudit.Catalog
